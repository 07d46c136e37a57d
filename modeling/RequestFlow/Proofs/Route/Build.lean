import RequestFlow.Proofs.Route.Target

/-!
# Paths that are built from a pattern

A pattern is written segment by segment, and a path is built from it by putting values, encoded, in
the place of its parameters. Such a path is cut into as many segments again, since no segment ends
early or is lost; decoding each value once, matching gives it back as it was. No other path is
matched than one with as many segments and the same literals.
-/

namespace RequestFlow

namespace Text

variable {character : Char} {text : List Char}

theorem plain_of_isUnreserved
    (unreserved : isUnreserved character = true) :
    character ≠ '/' ∧ isBlank character = false := by
  rw [isUnreserved_iff] at unreserved
  constructor
  · rintro rfl
    revert unreserved
    decide
  · simp only [isBlank, Bool.or_eq_false_iff, Bool.and_eq_false_iff, decide_eq_false_iff_not,
      beq_eq_false_iff_ne]
    omega

theorem percentEncode_ne_nil
    (some_character : text ≠ []) :
    percentEncode text ≠ [] := by
  intro nothing
  apply some_character
  rw [← percentDecode_percentEncode text, nothing]
  rfl

end Text

namespace Route

open Text

variable {part : List Char} {parts : List (List Char)} {shape : List Segment}
  {value : String → String}

/-! ## Parts without slashes and blanks -/

/-- A part of a path that is not empty and has no slash and no blank in it. -/
structure IsPart (part : List Char) : Prop where
  /-- There is something in it. -/
  ne_nil : part ≠ []
  /-- No slash and no blank is in it. -/
  plain : ∀ character ∈ part, character ≠ '/' ∧ isBlank character = false

theorem IsPart.slashless
    (isPart : IsPart part) :
    '/' ∉ part :=
  fun slash => (isPart.plain '/' slash).1 rfl

/-- Paths that were put together from such parts are cut into these parts again. -/
theorem segments_joined_of_isPart
    (some_part : parts ≠ [])
    (each : ∀ part ∈ parts, IsPart part) :
    segments (joined parts) = parts := by
  apply segments_joined some_part
  · exact fun part member => ⟨(each part member).ne_nil, (each part member).slashless⟩
  · apply dropEndWhile_of_forall
    intro character member
    obtain ⟨part, isPart, inside⟩ := List.mem_flatMap.1 member
    rcases List.mem_cons.1 inside with rfl | inPart
    · decide
    · exact ((each part isPart).plain character inPart).2

/-- A value, encoded, is such a part, whatever it consists of. -/
theorem isPart_percentEncode
    {text : List Char}
    (some_character : text ≠ []) :
    IsPart (percentEncode text) where
  ne_nil := percentEncode_ne_nil some_character
  plain character member := by
    rcases isUnreserved_or_eq_of_mem member with unreserved | rfl
    · exact plain_of_isUnreserved unreserved
    · decide

/-! ## Patterns as they are written -/

/-- A segment of a pattern as it is written. -/
inductive Spelling
  | literal (content : List Char)
  | colon (name : List Char)
  | braces (name : List Char)

namespace Spelling

/-- The text of a segment. -/
def text : Spelling → List Char
  | .literal content => content
  | .colon name => ':' :: name
  | .braces name => '\x7b' :: (name ++ ['\x7d'])

/-- The segment that is meant. -/
def segment : Spelling → Segment
  | .literal content => .literal content
  | .colon name => .parameter name
  | .braces name => .parameter name

/-- A literal has neither slashes nor blanks and does not begin like a parameter; a parameter has a
name. -/
def IsProper : Spelling → Prop
  | .literal content =>
    IsPart content ∧ content.head? ≠ some ':' ∧ content.head? ≠ some '\x7b'
  | .colon name => isName name = true
  | .braces name => isName name = true

end Spelling

theorem isUnreserved_of_isName
    {name : List Char}
    (named : isName name = true) :
    ∀ character ∈ name, isUnreserved character = true := by
  have letter : ∀ character, (isNameStart character || character.isDigit) = true →
      isUnreserved character = true := by
    intro character
    simp only [isNameStart, isUnreserved, Char.isAlphanum, Bool.or_eq_true]
    tauto
  cases name with
  | nil => cases named
  | cons first rest =>
      rw [isName, Bool.and_eq_true, List.all_eq_true] at named
      rw [List.forall_mem_cons]
      refine ⟨letter first ?_, fun character member => letter character (named.2 character member)⟩
      rw [named.1, Bool.true_or]

theorem Spelling.IsProper.isPart_text
    {spelling : Spelling}
    (proper : spelling.IsProper) :
    IsPart spelling.text := by
  have letters : ∀ {name : List Char}, isName name = true →
      ∀ character ∈ name, character ≠ '/' ∧ isBlank character = false :=
    fun named character member => plain_of_isUnreserved (isUnreserved_of_isName named _ member)
  cases spelling with
  | literal content => exact proper.1
  | colon name =>
      refine ⟨List.cons_ne_nil _ _, List.forall_mem_cons.2 ⟨by decide, letters proper⟩⟩
  | braces name =>
      refine ⟨List.cons_ne_nil _ _, List.forall_mem_cons.2 ⟨by decide, ?_⟩⟩
      rw [List.forall_mem_append, List.forall_mem_singleton]
      exact ⟨letters proper, by decide⟩

theorem dropLineEnd_of_isPart
    (isPart : IsPart part) :
    dropLineEnd part = part := by
  unfold dropLineEnd
  split
  · next lineEnd => cases (isPart.plain '\n' (List.mem_of_getLast? lineEnd)).2
  · rfl

/-- A segment is read as what is meant. -/
theorem Segment.read_text
    {spelling : Spelling}
    (proper : spelling.IsProper) :
    Segment.read spelling.text = spelling.segment := by
  unfold Segment.read
  rw [dropLineEnd_of_isPart proper.isPart_text]
  cases spelling with
  | literal content =>
      obtain ⟨-, no_colon, no_brace⟩ := proper
      dsimp only [Spelling.text]
      split
      · exact absurd rfl no_colon
      · exact absurd rfl no_brace
      · rfl
  | colon name => exact if_pos proper
  | braces name =>
      have named : bracedName? (name ++ ['\x7d']) = some name := by
        rw [bracedName?, List.getLast?_concat, List.dropLast_concat]
        exact if_pos proper
      simp only [Spelling.text, named]
      rfl

/-- A pattern is read as the segments that are meant. -/
theorem pattern_joined
    {spellings : List Spelling}
    (some_spelling : spellings ≠ [])
    (proper : ∀ spelling ∈ spellings, spelling.IsProper) :
    pattern (joined (spellings.map Spelling.text)) = spellings.map Spelling.segment := by
  have cut : segments (joined (spellings.map Spelling.text)) = spellings.map Spelling.text := by
    apply segments_joined_of_isPart (mt List.map_eq_nil_iff.1 some_spelling)
    intro part member
    obtain ⟨spelling, isSpelling, rfl⟩ := List.mem_map.1 member
    exact (proper spelling isSpelling).isPart_text
  rw [pattern, cut, List.map_map]
  exact List.map_congr_left fun spelling member => Segment.read_text (proper spelling member)

/-! ## Matching what was built -/

theorem mem_parameterNames
    {name : List Char}
    (member : .parameter name ∈ shape) :
    String.ofList name ∈ parameterNames shape := by
  induction shape with
  | nil => cases member
  | cons segment shape inductionHypothesis =>
      rcases List.mem_cons.1 member with rfl | later
      · exact List.mem_cons_self
      · cases segment with
        | literal content => exact inductionHypothesis later
        | parameter other => exact List.mem_cons_of_mem _ (inductionHypothesis later)

/-- The parameters are found with the values that were put in their places. -/
theorem bindings_filled
    (shape : List Segment)
    (value : String → String) :
    bindings shape (shape.map (Segment.filled value)) = given shape value := by
  induction shape with
  | nil => rfl
  | cons segment shape inductionHypothesis =>
      cases segment with
      | literal content => exact inductionHypothesis
      | parameter name =>
          rw [List.map_cons, Segment.filled, bindings, inductionHypothesis,
            percentDecode_percentEncode, String.ofList_toList]
          rfl

/-- A pattern admits every part of a path that was built from it. -/
theorem isPart_filled_and_admits
    {spellings : List Spelling}
    (proper : ∀ spelling ∈ spellings, spelling.IsProper)
    (some_value : ∀ name ∈ parameterNames (spellings.map Spelling.segment), value name ≠ "") :
    ∀ segment ∈ spellings.map Spelling.segment,
      IsPart (segment.filled value) ∧ segment.Admits (segment.filled value) := by
  intro segment member
  obtain ⟨spelling, isSpelling, rfl⟩ := List.mem_map.1 member
  have isPart : ∀ name, spelling.segment = .parameter name →
      IsPart (percentEncode (value (String.ofList name)).toList) := by
    intro name segment_eq
    apply isPart_percentEncode
    rw [segment_eq] at member
    simpa using some_value _ (mem_parameterNames member)
  cases spelling with
  | literal content => exact ⟨(proper _ isSpelling).1, rfl⟩
  | colon name => exact ⟨isPart name rfl, (isPart name rfl).ne_nil⟩
  | braces name => exact ⟨isPart name rfl, (isPart name rfl).ne_nil⟩

/-- A path is matched only if it has as many segments as the pattern and the same literals. -/
theorem match?_eq_none
    {declared path : String}
    (pattern_eq : pattern declared.toList = shape)
    (distinct : (parameterNames shape).Nodup)
    (differs : (segments path.toList).length ≠ shape.length ∨
      ∃ (index : Nat) (content : List Char), shape[index]? = some (.literal content) ∧
        (segments path.toList)[index]? ≠ some content) :
    match? declared path = none := by
  rw [Option.eq_none_iff_forall_ne_some]
  intro found matched
  rw [match?, pattern_eq] at matched
  obtain ⟨admits, -⟩ := (matchSegments_eq_some_iff (by simpa [Assoc.keys] using distinct)).1 matched
  obtain ⟨lengths, each⟩ := List.forall₂_iff_get.1 admits
  rcases differs with longer | ⟨index, content, literal, different⟩
  · exact longer lengths
  · obtain ⟨inShape, shape_eq⟩ := List.getElem?_eq_some_iff.1 literal
    have inPath : index < (segments path.toList).length := by rwa [lengths]
    have admitted := each index inPath inShape
    rw [List.get_eq_getElem, List.get_eq_getElem, shape_eq] at admitted
    exact different (List.getElem?_eq_some_iff.2 ⟨inPath, admitted.symm⟩)

/-- Matching undoes building: a path that was built from a pattern gives the parameters the values
that were put into it, whatever characters they consist of; a path with another number of segments,
or with another segment in the place of a literal, is not matched. The segments of a path are the
parts it was put together from, if none of them is empty or has a slash and no blank stands at its
end. -/
theorem match?_target
    {spellings : List Spelling}
    (some_spelling : spellings ≠ [])
    (proper : ∀ spelling ∈ spellings, spelling.IsProper)
    (distinct : (parameterNames (spellings.map Spelling.segment)).Nodup)
    {declared : String}
    (declared_eq : declared.toList = joined (spellings.map Spelling.text)) :
    (∀ value : String → String,
      (∀ name ∈ parameterNames (spellings.map Spelling.segment), value name ≠ "") →
      match? declared (String.ofList (target (spellings.map Spelling.segment) value)) =
        some (given (spellings.map Spelling.segment) value)) ∧
    (∀ path : String,
      ((segments path.toList).length ≠ spellings.length ∨
        ∃ (index : Nat) (content : List Char), spellings[index]? = some (.literal content) ∧
          (segments path.toList)[index]? ≠ some content) →
      match? declared path = none) ∧
    ∀ parts, parts ≠ [] → (∀ part ∈ parts, part ≠ [] ∧ '/' ∉ part) →
      trimEnd (joined parts) = joined parts → segments (joined parts) = parts := by
  have pattern_eq : pattern declared.toList = spellings.map Spelling.segment := by
    rw [declared_eq]
    exact pattern_joined some_spelling proper
  refine ⟨?_, ?_, fun _ => segments_joined⟩
  · intro value some_value
    have each := isPart_filled_and_admits proper some_value
    have cut : segments (target (spellings.map Spelling.segment) value) =
        (spellings.map Spelling.segment).map (Segment.filled value) := by
      apply segments_joined_of_isPart
      · simpa using some_spelling
      · exact List.forall_mem_map.2 fun segment member => (each segment member).1
    rw [match?, pattern_eq, String.toList_ofList, cut,
      matchSegments_eq_some_iff (by simpa [Assoc.keys] using distinct), bindings_filled]
    refine ⟨?_, rfl⟩
    rw [List.forall₂_map_left_iff, List.forall₂_same]
    exact fun segment member => (each segment member).2
  · intro path differs
    apply match?_eq_none pattern_eq distinct
    rw [List.length_map]
    refine differs.imp_right ?_
    rintro ⟨index, content, literal, different⟩
    refine ⟨index, content, ?_, different⟩
    rw [List.getElem?_map, literal]
    rfl

namespace Sample

/-- The segments of the pattern `/users/:id/{tag}`. -/
def spellings : List Spelling :=
  [.literal ['u', 's', 'e', 'r', 's'], .colon ['i', 'd'], .braces ['t', 'a', 'g']]

def values (name : String) : String :=
  if name = "id" then "a/b" else "é %"

end Sample

/-- Values with a slash, a blank, a percent sign and a letter that is not of ASCII come back from
the path they were put into; and neither a shorter path is matched nor one that begins otherwise. -/
theorem match?_target_users :
    match? "/users/:id/\x7btag\x7d" "/users/a%2Fb/%C3%A9%20%25" =
      some [("id", "a/b"), ("tag", "é %")] ∧
    match? "/users/:id/\x7btag\x7d" "/users/1" = none ∧
    match? "/users/:id/\x7btag\x7d" "/orders/1/x" = none ∧
    segments "/a/1".toList = [['a'], ['1']] := by
  have proper : ∀ spelling ∈ Sample.spellings, spelling.IsProper := by
    have named : isName ['u', 's', 'e', 'r', 's'] = true := rfl
    have plain : IsPart ['u', 's', 'e', 'r', 's'] :=
      ⟨List.cons_ne_nil _ _, fun _ member =>
        plain_of_isUnreserved (isUnreserved_of_isName named _ member)⟩
    rw [Sample.spellings, List.forall_mem_cons, List.forall_mem_cons, List.forall_mem_singleton]
    exact ⟨⟨plain, by decide, by decide⟩, rfl, rfl⟩
  have some_spelling : Sample.spellings ≠ [] := List.cons_ne_nil _ _
  have declared_eq : "/users/:id/\x7btag\x7d".toList =
      joined (Sample.spellings.map Spelling.text) := rfl
  obtain ⟨matched, unmatched, cut⟩ :=
    match?_target some_spelling proper (by decide) declared_eq
  refine ⟨?_, ?_, ?_, ?_⟩
  · have path_eq : String.ofList (target (Sample.spellings.map Spelling.segment) Sample.values) =
        "/users/a%2Fb/%C3%A9%20%25" := by decide +kernel
    have given_eq : given (Sample.spellings.map Spelling.segment) Sample.values =
        [("id", "a/b"), ("tag", "é %")] := by decide +kernel
    rw [← path_eq, matched Sample.values (by decide +kernel), given_eq]
  · exact unmatched "/users/1" (.inl (by decide +kernel))
  · exact unmatched "/orders/1/x" (.inr ⟨0, ['u', 's', 'e', 'r', 's'], rfl, by decide +kernel⟩)
  · exact cut [['a'], ['1']] (List.cons_ne_nil _ _) (by decide) (by decide)

end Route
end RequestFlow
