import RequestFlow.Proofs.Template.Reference

/-!
# Where the references of a text stand

The grammar of references is told here by itself, and the positions at which a text is cut are the
ones at which the grammar matches. Cutting goes from left to right and passes over a reference that
it has found. Nothing is lost on the way: two opening braces stand at the front of a reference and
nowhere else in it, so no reference starts inside another.
-/

namespace RequestFlow
namespace Template

open Text

/-! ## The grammar -/

/-- The class `[A-Za-z0-9_-]`. -/
def InTokenClass (character : Char) : Prop :=
  ('A' ≤ character ∧ character ≤ 'Z') ∨ ('a' ≤ character ∧ character ≤ 'z') ∨
    ('0' ≤ character ∧ character ≤ '9') ∨ character = '_' ∨ character = '-'

/-- The class `[A-Za-z0-9_.-]`. -/
def InPathClass (character : Char) : Prop :=
  InTokenClass character ∨ character = '.'

/-- The texts `{{token.token.path}}`. -/
inductive Grammar : List Char → Prop
  | reference {node key path : List Char} :
      node ≠ [] → (∀ character ∈ node, InTokenClass character) →
      key ≠ [] → (∀ character ∈ key, InTokenClass character) →
      path ≠ [] → (∀ character ∈ path, InPathClass character) →
      Grammar (['\x7b', '\x7b'] ++ node ++ '.' :: key ++ '.' :: path ++ ['\x7d', '\x7d'])

theorem isTokenChar_iff
    {character : Char} :
    isTokenChar character = true ↔ InTokenClass character := by
  change (((decide ('A' ≤ character ∧ character ≤ 'Z') ||
        (decide ('a' ≤ character) && decide (character ≤ 'z'))) ||
      (decide ('0' ≤ character) && decide (character ≤ '9'))) ||
    character == '_' || character == '-') = true ↔ _
  simp only [InTokenClass, Bool.or_eq_true, Bool.and_eq_true, decide_eq_true_eq, beq_iff_eq,
    or_assoc]

theorem isPathChar_iff
    {character : Char} :
    isPathChar character = true ↔ InPathClass character := by
  simp [isPathChar, InPathClass, isTokenChar_iff]

/-- A text is in a class if the test for the class passes on all of it. -/
theorem forall_inTokenClass
    {text : List Char}
    (passes : text.all isTokenChar = true) :
    ∀ character ∈ text, InTokenClass character :=
  fun _ member => isTokenChar_iff.1 (List.all_eq_true.1 passes _ member)

theorem forall_inPathClass
    {text : List Char}
    (passes : text.all isPathChar = true) :
    ∀ character ∈ text, InPathClass character :=
  fun _ member => isPathChar_iff.1 (List.all_eq_true.1 passes _ member)

namespace Reference

/-- The reference that a node, a key and the text of a path make up. -/
def ofParts (node key path : List Char) : Reference :=
  ⟨node, key, splitAt '.' path⟩

variable {node key path : List Char}

theorem source_ofParts :
    (ofParts node key path).source =
      ['\x7b', '\x7b'] ++ node ++ '.' :: key ++ '.' :: path ++ ['\x7d', '\x7d'] := by
  simp [ofParts, source, joinPath_splitAt]

/-- Words and the characters of paths make up a proper reference. -/
theorem isProper_ofParts
    (node_ne_nil : node ≠ [])
    (node_token : ∀ character ∈ node, InTokenClass character)
    (key_ne_nil : key ≠ [])
    (key_token : ∀ character ∈ key, InTokenClass character)
    (path_ne_nil : path ≠ [])
    (path_token : ∀ character ∈ path, InPathClass character) :
    (ofParts node key path).IsProper where
  node_ne_nil := node_ne_nil
  node_token character member := isTokenChar_iff.2 (node_token character member)
  key_ne_nil := key_ne_nil
  key_token character member := isTokenChar_iff.2 (key_token character member)
  path_ne_nil := splitAt_ne_nil '.' path
  path_token part isPart character member := by
    obtain ⟨inPath, noPoint⟩ := mem_of_mem_splitAt isPart character member
    exact isTokenChar_iff.2 ((path_token character inPath).resolve_right noPoint)
  joinPath_ne_nil := by
    simpa [ofParts, joinPath_splitAt] using path_ne_nil

end Reference

/-- The texts of the grammar are those of the proper references. -/
theorem grammar_iff
    {form : List Char} :
    Grammar form ↔ ∃ reference : Reference, reference.IsProper ∧ form = reference.source := by
  constructor
  · rintro ⟨node_ne_nil, node_token, key_ne_nil, key_token, path_ne_nil, path_token⟩
    exact ⟨_, Reference.isProper_ofParts node_ne_nil node_token key_ne_nil key_token path_ne_nil
      path_token, Reference.source_ofParts.symm⟩
  · rintro ⟨reference, proper, rfl⟩
    have characters := Reference.isPathChar_of_mem_joinPath proper.path_token
    exact .reference
      proper.node_ne_nil (fun character member => isTokenChar_iff.1 (proper.node_token _ member))
      proper.key_ne_nil (fun character member => isTokenChar_iff.1 (proper.key_token _ member))
      proper.joinPath_ne_nil (fun character member => isPathChar_iff.1 (characters _ member))

/-! ## References at a position -/

/-- A reference is read where a proper one stands. -/
theorem reference?_eq_some_iff
    {input : List Char}
    {reference : Reference} :
    reference? input = some reference ↔ reference.IsProper ∧ reference.source <+: input := by
  constructor
  · intro read
    obtain ⟨proper, rest, rfl⟩ := isProper_of_reference? read
    exact ⟨proper, rest, rfl⟩
  · rintro ⟨proper, rest, rfl⟩
    exact reference?_source_append proper rest

/-- What is read as a reference begins with two braces. -/
theorem exists_of_reference?
    {input : List Char}
    {reference : Reference}
    (read : reference? input = some reference) :
    ∃ rest, input = '\x7b' :: '\x7b' :: rest := by
  obtain ⟨-, rest, rfl⟩ := reference?_eq_some_iff.1 read
  exact ⟨_, rfl⟩

/-- The text of a reference without its first brace. -/
def Reference.inner (reference : Reference) : List Char :=
  '\x7b' :: reference.node ++ '.' :: reference.key ++ '.' :: Reference.joinPath reference.path ++
    ['\x7d', '\x7d']

theorem Reference.source_eq_cons
    (reference : Reference) :
    reference.source = '\x7b' :: reference.inner := rfl

/-- After the second brace of a reference no other opening brace follows. -/
theorem Reference.IsProper.not_mem_tail_inner
    {reference : Reference}
    (proper : reference.IsProper) :
    '\x7b' ∉ reference.inner.tail := by
  have characters := Reference.isPathChar_of_mem_joinPath proper.path_token
  intro member
  simp only [Reference.inner, List.cons_append, List.tail_cons, List.mem_append,
    List.mem_cons, List.not_mem_nil, or_false] at member
  rcases member with ((inNode | point | inKey) | point | inPath) | close | close
  · exact absurd (proper.node_token _ inNode) (by decide)
  · exact absurd point (by decide)
  · exact absurd (proper.key_token _ inKey) (by decide)
  · exact absurd point (by decide)
  · exact absurd (characters _ inPath) (by decide)
  · exact absurd close (by decide)
  · exact absurd close (by decide)

/-- No reference starts inside another. -/
theorem reference?_drop_inner
    {reference : Reference}
    (proper : reference.IsProper)
    {offset : Nat}
    (inside : offset < reference.inner.length)
    (rest : List Char) :
    reference? ((reference.inner ++ rest).drop offset) = none := by
  have noBrace := proper.not_mem_tail_inner
  rw [List.drop_append_of_le_length (Nat.le_of_lt inside)]
  rw [Option.eq_none_iff_forall_ne_some]
  intro other read
  obtain ⟨after, begins⟩ := exists_of_reference? read
  cases offset with
  | zero =>
      -- The second brace is followed by the first character of the node.
      obtain ⟨first, others, node_eq⟩ := List.exists_cons_of_ne_nil proper.node_ne_nil
      have token := proper.node_token first (by simp [node_eq])
      obtain ⟨rfl, -⟩ : first = '\x7b' ∧ _ := by
        simpa [Reference.inner, node_eq] using begins
      exact absurd token (by decide)
  | succ offset =>
      have within : offset < reference.inner.tail.length := by
        simpa [Nat.lt_sub_iff_add_lt] using inside
      have head : reference.inner.tail[offset] = '\x7b' := by
        have first := congrArg List.head? begins
        simpa [List.head?_append, List.head?_drop, inside] using first
      exact noBrace (head ▸ List.getElem_mem within)

/-! ## Cutting finds every one -/

/-- If the text begins at the position, a reference of it stands where the occurrence says. -/
def Stands
    (position : Nat)
    (text : List Char)
    (occurrence : Occurrence) : Prop :=
  ∃ offset, occurrence.start = position + offset ∧
    occurrence.stop = occurrence.start + occurrence.reference.source.length ∧
    reference? (text.drop offset) = some occurrence.reference

theorem stands_nil
    {position : Nat}
    {occurrence : Occurrence} :
    ¬Stands position [] occurrence := by
  rintro ⟨offset, -, -, read⟩
  rw [List.drop_nil] at read
  cases read

/-- A reference stands at the front of a text or in what follows its first character. -/
theorem stands_cons
    {position : Nat}
    {character : Char}
    {rest : List Char}
    {occurrence : Occurrence} :
    Stands position (character :: rest) occurrence ↔
      (occurrence.start = position ∧
        occurrence.stop = occurrence.start + occurrence.reference.source.length ∧
        reference? (character :: rest) = some occurrence.reference) ∨
      Stands (position + 1) rest occurrence := by
  constructor
  · rintro ⟨offset, start, stop, read⟩
    cases offset with
    | zero => exact Or.inl ⟨start, stop, read⟩
    | succ offset => exact Or.inr ⟨offset, by omega, stop, read⟩
  · rintro (⟨start, stop, read⟩ | ⟨offset, start, stop, read⟩)
    · exact ⟨0, start, stop, read⟩
    · exact ⟨offset + 1, by omega, stop, read⟩

/-- Whatever stands in a text is found in its pieces, if nothing starts among the characters that
are passed over. -/
theorem mem_locate_piecesAfter
    {position covered : Nat}
    {text : List Char}
    (within : covered ≤ text.length)
    (passed : ∀ offset < covered, reference? (text.drop offset) = none)
    (occurrence : Occurrence) :
    occurrence ∈ locate (position + covered) (piecesAfter covered text) ↔
      Stands position text occurrence := by
  induction text generalizing position covered with
  | nil => simp [piecesAfter, locate, stands_nil]
  | cons character rest inductionHypothesis =>
      rw [stands_cons]
      cases covered with
      | succ covered =>
          have next : position + (covered + 1) = position + 1 + covered := by omega
          have unread : reference? (character :: rest) = none := passed 0 (by omega)
          rw [piecesAfter, next, inductionHypothesis (by simpa using within)
            fun offset before => passed (offset + 1) (by omega)]
          simp [unread]
      | zero =>
          cases read : reference? (character :: rest) with
          | none =>
              have onward : occurrence ∈ locate (position + 1) (piecesAfter 0 rest) ↔
                  Stands (position + 1) rest occurrence :=
                inductionHypothesis (Nat.zero_le _) (by omega)
              rw [piecesAfter, read]
              simpa [locate] using onward
          | some reference =>
              obtain ⟨proper, after, whole⟩ := reference?_eq_some_iff.1 read
              obtain ⟨rfl, rfl⟩ : '\x7b' = character ∧ reference.inner ++ after = rest := by
                simpa [Reference.source_eq_cons] using whole
              have onward : occurrence ∈ locate (position + 1 + reference.inner.length)
                  (piecesAfter reference.inner.length (reference.inner ++ after)) ↔
                    Stands (position + 1) (reference.inner ++ after) occurrence :=
                inductionHypothesis (by simp) fun offset inside =>
                  reference?_drop_inner proper inside after
              have length : reference.source.length = reference.inner.length + 1 := rfl
              rw [piecesAfter, read]
              simp only [locate, length, Nat.add_sub_cancel, List.mem_cons]
              rw [show position + 0 + (reference.inner.length + 1) =
                position + 1 + reference.inner.length by omega, onward]
              refine or_congr_left ?_
              rw [Option.some.injEq]
              constructor
              · rintro rfl
                exact ⟨rfl, by simp only [length]; omega, rfl⟩
              · rintro ⟨start, stop, rfl⟩
                cases occurrence
                simp_all
                omega

/-- The references of a text are those that stand in it. -/
theorem mem_references_iff
    {text : List Char}
    {occurrence : Occurrence} :
    occurrence ∈ references text ↔
      occurrence.reference.IsProper ∧
      occurrence.reference.source <+: text.drop occurrence.start ∧
      occurrence.stop = occurrence.start + occurrence.reference.source.length := by
  have found : occurrence ∈ locate (0 + 0) (piecesAfter 0 text) ↔ Stands 0 text occurrence :=
    mem_locate_piecesAfter (Nat.zero_le _) (by omega) occurrence
  rw [references, pieces, ← Nat.add_zero 0, found, ← and_assoc, ← reference?_eq_some_iff]
  constructor
  · rintro ⟨offset, start, stop, read⟩
    obtain rfl : occurrence.start = offset := by omega
    exact ⟨read, stop⟩
  · rintro ⟨read, stop⟩
    exact ⟨occurrence.start, by omega, stop, read⟩

/-- References are listed from left to right. -/
theorem start_of_mem_locate
    {position : Nat}
    {cut : List Piece}
    {occurrence : Occurrence}
    (found : occurrence ∈ locate position cut) :
    position ≤ occurrence.start := by
  induction cut generalizing position with
  | nil => cases found
  | cons piece rest inductionHypothesis =>
      cases piece with
      | literal character =>
          have := inductionHypothesis found
          omega
      | reference reference =>
          rcases List.mem_cons.1 found with rfl | later
          · exact Nat.le_refl _
          · have := inductionHypothesis later
            omega

/-- Each reference ends before the next one starts. -/
theorem pairwise_locate
    (position : Nat)
    (cut : List Piece) :
    (locate position cut).Pairwise fun first second =>
      first.start < second.start ∧ first.stop ≤ second.start := by
  induction cut generalizing position with
  | nil => exact .nil
  | cons piece rest inductionHypothesis =>
      cases piece with
      | literal character => exact inductionHypothesis (position + 1)
      | reference reference =>
          refine List.pairwise_cons.2 ⟨?_, inductionHypothesis _⟩
          intro later found
          have after := start_of_mem_locate found
          have length : reference.source.length = reference.inner.length + 1 := rfl
          exact ⟨by simp only; omega, after⟩

/-! ## The references of a text -/

/-- A part of a text, if there is anything in it, is what stands between its positions. -/
theorem extract_eq_iff
    {text form : List Char}
    (some_character : form ≠ [])
    {start stop : Nat} :
    stop ≤ text.length ∧ text.extract start stop = form ↔
      form <+: text.drop start ∧ stop = start + form.length := by
  rw [List.extract_eq_take_drop]
  constructor
  · rintro ⟨within, rfl⟩
    have length : 0 < ((text.drop start).take (stop - start)).length :=
      List.length_pos_iff.2 some_character
    rw [List.length_take, List.length_drop] at length ⊢
    exact ⟨List.take_prefix _ _, by omega⟩
  · rintro ⟨stands, rfl⟩
    have length := stands.length_le
    have some_length : 0 < form.length := List.length_pos_iff.2 some_character
    rw [List.length_drop] at length
    rw [Nat.add_sub_cancel_left]
    exact ⟨by omega, (List.prefix_iff_eq_take.1 stands).symm⟩

theorem Reference.source_ne_nil
    (reference : Reference) :
    reference.source ≠ [] :=
  List.cons_ne_nil _ _

/-- A place is that of a reference exactly when the grammar matches there. -/
theorem exists_mem_references_iff
    {text : List Char}
    {start stop : Nat} :
    (∃ occurrence ∈ references text, occurrence.start = start ∧ occurrence.stop = stop) ↔
      stop ≤ text.length ∧ Grammar (text.extract start stop) := by
  rw [grammar_iff]
  constructor
  · rintro ⟨occurrence, found, rfl, rfl⟩
    obtain ⟨proper, stands, ends⟩ := mem_references_iff.1 found
    obtain ⟨within, spelt⟩ := (extract_eq_iff occurrence.reference.source_ne_nil).2 ⟨stands, ends⟩
    exact ⟨within, occurrence.reference, proper, spelt⟩
  · rintro ⟨within, reference, proper, spelt⟩
    obtain ⟨stands, ends⟩ := (extract_eq_iff reference.source_ne_nil).1 ⟨within, spelt⟩
    exact ⟨⟨start, stop, reference⟩, mem_references_iff.2 ⟨proper, stands, ends⟩, rfl, rfl⟩

/-- The references of a text are at exactly the places where the grammar matches. They are listed by
increasing positions, none of them reaches into the next, and each is spelt by its place. -/
theorem references_exact
    (text : List Char) :
    (∀ start stop,
      (∃ occurrence ∈ references text, occurrence.start = start ∧ occurrence.stop = stop) ↔
        stop ≤ text.length ∧ Grammar (text.extract start stop)) ∧
    ((references text).Pairwise fun first second =>
      first.start < second.start ∧ first.stop ≤ second.start) ∧
    ∀ occurrence ∈ references text,
      occurrence.reference.source = text.extract occurrence.start occurrence.stop := by
  refine ⟨fun start stop => exists_mem_references_iff, pairwise_locate 0 (pieces text), ?_⟩
  intro occurrence found
  obtain ⟨-, stands, ends⟩ := mem_references_iff.1 found
  have spelt := (extract_eq_iff occurrence.reference.source_ne_nil).2 ⟨stands, ends⟩
  exact spelt.2.symm

/-- After a brace too many and next to each other, references are found; a part is missing in what
is none. -/
example :
    references "{{{a.b.c}}{{a-1.k._.}}}{{a.b}}".toList =
      [⟨1, 10, ⟨['a'], ['b'], [['c']]⟩⟩, ⟨10, 22, ⟨['a', '-', '1'], ['k'], [['_'], []]⟩⟩] := by
  decide

end Template
end RequestFlow
