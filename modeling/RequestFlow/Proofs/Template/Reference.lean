import RequestFlow.Proofs.Text.Cut
import RequestFlow.Template.Reference

/-!
# References read back

The references of the grammar are the ones that are read: each is read back from its text, whatever
follows, and whatever is read stands there as its text.
-/

namespace RequestFlow

namespace Template

open Text

namespace Reference

/-- The parts of a path are read back from the path. -/
theorem splitAt_joinPath
    {parts : List (List Char)}
    (some_part : parts ≠ [])
    (absent : ∀ part ∈ parts, '.' ∉ part) :
    splitAt '.' (joinPath parts) = parts := by
  induction parts with
  | nil => exact absurd rfl some_part
  | cons part others inductionHypothesis =>
      cases others with
      | nil => exact splitAt_of_not_mem (absent part (by simp))
      | cons other others =>
          rw [joinPath, splitAt_append (absent part (by simp)),
            inductionHypothesis (by simp) fun later member => absent later (by simp [member])]
          simp

/-- A path consists of its parts. -/
theorem joinPath_splitAt
    (text : List Char) :
    joinPath (splitAt '.' text) = text := by
  induction text with
  | nil => rfl
  | cons character rest inductionHypothesis =>
      have some_part := splitAt_ne_nil '.' rest
      unfold splitAt
      split
      · next point =>
          cases parts : splitAt '.' rest with
          | nil => exact absurd parts some_part
          | cons part others =>
              rw [parts] at inductionHypothesis
              simp [joinPath, point, inductionHypothesis]
      · cases parts : splitAt '.' rest with
        | nil => exact absurd parts some_part
        | cons part others =>
            rw [parts] at inductionHypothesis
            cases others <;> simp_all [joinPath]

/-- The references of the grammar: node and key are words, and the path is made of words, some of
which may be empty, as long as there is a character in it. -/
structure IsProper (reference : Reference) : Prop where
  /-- The node has a name. -/
  node_ne_nil : reference.node ≠ []
  /-- It is made of the characters of words. -/
  node_token : ∀ character ∈ reference.node, isTokenChar character = true
  /-- The key has a name. -/
  key_ne_nil : reference.key ≠ []
  /-- It is made of the characters of words. -/
  key_token : ∀ character ∈ reference.key, isTokenChar character = true
  /-- The path has segments. -/
  path_ne_nil : reference.path ≠ []
  /-- They are made of the characters of words. -/
  path_token : ∀ part ∈ reference.path, ∀ character ∈ part, isTokenChar character = true
  /-- The path is not the empty text. -/
  joinPath_ne_nil : joinPath reference.path ≠ []

instance (reference : Reference) : Decidable reference.IsProper :=
  decidable_of_iff
    ((reference.node ≠ [] ∧ reference.node.all isTokenChar = true) ∧
      (reference.key ≠ [] ∧ reference.key.all isTokenChar = true) ∧
      reference.path ≠ [] ∧
      (reference.path.all fun part => part.all isTokenChar) = true ∧
      joinPath reference.path ≠ [])
    (by
      simp only [List.all_eq_true]
      exact ⟨fun ⟨⟨a, b⟩, ⟨c, d⟩, e, f, g⟩ => ⟨a, b, c, d, e, f, g⟩,
        fun ⟨a, b, c, d, e, f, g⟩ => ⟨⟨a, b⟩, ⟨c, d⟩, e, f, g⟩⟩)

/-- The characters of a path are points and characters of words. -/
theorem isPathChar_of_mem_joinPath
    {parts : List (List Char)}
    (token : ∀ part ∈ parts, ∀ character ∈ part, isTokenChar character = true) :
    ∀ character ∈ joinPath parts, isPathChar character = true := by
  induction parts with
  | nil => simp [joinPath]
  | cons part others inductionHypothesis =>
      intro character member
      have later := inductionHypothesis fun other inOthers => token other (by simp [inOthers])
      have inPart : character ∈ part → isPathChar character = true := fun inside => by
        simp [isPathChar, token part (by simp) character inside]
      cases others with
      | nil => exact inPart member
      | cons other others =>
          rcases List.mem_append.1 member with inside | after
          · exact inPart inside
          · rcases List.mem_cons.1 after with rfl | inOthers
            · rfl
            · exact later character inOthers

end Reference

/-! ## Reading -/

/-- A word that a point follows is read. -/
theorem takeToken?_append
    {token : List Char}
    (some_character : token ≠ [])
    (all : ∀ character ∈ token, isTokenChar character = true)
    (rest : List Char) :
    takeToken? (token ++ '.' :: rest) = some (token, rest) := by
  have taken : (token ++ '.' :: rest).takeWhile isTokenChar = token := by
    rw [List.takeWhile_append_of_pos all, List.takeWhile_cons_of_neg (by decide), List.append_nil]
  have dropped : (token ++ '.' :: rest).dropWhile isTokenChar = '.' :: rest := by
    rw [List.dropWhile_append_of_pos all, List.dropWhile_cons_of_neg (by decide)]
  rw [takeToken?, taken, dropped]
  cases token with
  | nil => exact absurd rfl some_character
  | cons character others => rfl

/-- What is read as a word stands in front of a point. -/
theorem eq_of_takeToken?
    {input token rest : List Char}
    (taken : takeToken? input = some (token, rest)) :
    input = token ++ '.' :: rest ∧ token ≠ [] ∧
      ∀ character ∈ token, isTokenChar character = true := by
  have parts : input.takeWhile isTokenChar ++ input.dropWhile isTokenChar = input :=
    List.takeWhile_append_dropWhile
  have all : ∀ character ∈ input.takeWhile isTokenChar, isTokenChar character = true :=
    List.all_eq_true.1 List.all_takeWhile
  unfold takeToken? at taken
  split at taken
  · cases taken
  · next after after_eq some_character =>
      cases taken
      rw [after_eq] at parts
      exact ⟨parts.symm, some_character, all⟩
  · cases taken

/-- A path that two closing braces follow is read. -/
theorem takePath?_append
    {path : List Char}
    (some_character : path ≠ [])
    (all : ∀ character ∈ path, isPathChar character = true)
    (rest : List Char) :
    takePath? (path ++ '\x7d' :: '\x7d' :: rest) = some (splitAt '.' path) := by
  have taken : (path ++ '\x7d' :: '\x7d' :: rest).takeWhile isPathChar = path := by
    rw [List.takeWhile_append_of_pos all, List.takeWhile_cons_of_neg (by decide), List.append_nil]
  have dropped : (path ++ '\x7d' :: '\x7d' :: rest).dropWhile isPathChar =
      '\x7d' :: '\x7d' :: rest := by
    rw [List.dropWhile_append_of_pos all, List.dropWhile_cons_of_neg (by decide)]
  rw [takePath?, taken, dropped]
  cases path with
  | nil => exact absurd rfl some_character
  | cons character others => rfl

/-- What is read as a path stands in front of two closing braces. -/
theorem eq_of_takePath?
    {input : List Char}
    {parts : List (List Char)}
    (taken : takePath? input = some parts) :
    ∃ path rest, input = path ++ '\x7d' :: '\x7d' :: rest ∧ path ≠ [] ∧
      (∀ character ∈ path, isPathChar character = true) ∧ parts = splitAt '.' path := by
  have whole : input.takeWhile isPathChar ++ input.dropWhile isPathChar = input :=
    List.takeWhile_append_dropWhile
  have all : ∀ character ∈ input.takeWhile isPathChar, isPathChar character = true :=
    List.all_eq_true.1 List.all_takeWhile
  unfold takePath? at taken
  split at taken
  · cases taken
  · next rest rest_eq some_character =>
      cases taken
      rw [rest_eq] at whole
      exact ⟨_, rest, whole.symm, some_character, all, rfl⟩
  · cases taken

/-- A reference of the grammar is read back from its text, whatever follows. -/
theorem reference?_source_append
    {reference : Reference}
    (proper : reference.IsProper)
    (rest : List Char) :
    reference? (reference.source ++ rest) = some reference := by
  have noPoint : ∀ part ∈ reference.path, '.' ∉ part := fun part isPart member =>
    absurd (proper.path_token part isPart '.' member) (by decide)
  have characters := Reference.isPathChar_of_mem_joinPath proper.path_token
  simp only [Reference.source, List.cons_append, List.append_assoc, List.nil_append, reference?]
  rw [takeToken?_append proper.node_ne_nil proper.node_token]
  simp only
  rw [takeToken?_append proper.key_ne_nil proper.key_token]
  simp only
  rw [takePath?_append proper.joinPath_ne_nil characters,
    Reference.splitAt_joinPath proper.path_ne_nil noPoint]
  rfl

/-- What is read as a reference is one of the grammar, and its text stands there. -/
theorem isProper_of_reference?
    {input : List Char}
    {reference : Reference}
    (read : reference? input = some reference) :
    reference.IsProper ∧ ∃ rest, input = reference.source ++ rest := by
  unfold reference? at read
  split at read
  · next input =>
      split at read
      · cases read
      · next node afterNode node_eq =>
          split at read
          · cases read
          · next key afterKey key_eq =>
              obtain ⟨parts, parts_eq, rfl⟩ := Option.map_eq_some_iff.1 read
              obtain ⟨rfl, node_ne_nil, node_token⟩ := eq_of_takeToken? node_eq
              obtain ⟨rfl, key_ne_nil, key_token⟩ := eq_of_takeToken? key_eq
              obtain ⟨path, rest, rfl, path_ne_nil, characters, rfl⟩ := eq_of_takePath? parts_eq
              have joined := Reference.joinPath_splitAt path
              refine ⟨⟨node_ne_nil, node_token, key_ne_nil, key_token, splitAt_ne_nil '.' path,
                ?_, by simpa [joined] using path_ne_nil⟩, rest, by simp [Reference.source, joined]⟩
              intro part isPart character member
              obtain ⟨inPath, noPoint⟩ := mem_of_mem_splitAt isPart character member
              have whole := characters character inPath
              simpa [isPathChar, noPoint] using whole
  · cases read

/-! ## Cutting -/

/-- The characters that belong to a reference found before are passed over. -/
theorem piecesAfter_append
    (covered rest : List Char) :
    piecesAfter covered.length (covered ++ rest) = pieces rest := by
  induction covered with
  | nil => rfl
  | cons character covered inductionHypothesis =>
      rw [List.length_cons, List.cons_append, piecesAfter]
      exact inductionHypothesis

/-- A reference at the start of a text is its first piece. -/
theorem pieces_source_append
    {reference : Reference}
    (proper : reference.IsProper)
    (rest : List Char) :
    pieces (reference.source ++ rest) = .reference reference :: pieces rest := by
  have read := reference?_source_append proper rest
  obtain ⟨first, others, source_eq⟩ : ∃ first others, reference.source = first :: others :=
    ⟨_, _, rfl⟩
  have passed : reference.source.length - 1 = others.length := by simp [source_eq]
  rw [source_eq, List.cons_append] at read
  rw [source_eq, List.cons_append, pieces, piecesAfter, read]
  simp only [passed, piecesAfter_append]

/-- The text of a reference is one piece. -/
theorem pieces_source
    {reference : Reference}
    (proper : reference.IsProper) :
    pieces reference.source = [.reference reference] := by
  simpa [pieces, piecesAfter] using pieces_source_append proper []

end Template
end RequestFlow
