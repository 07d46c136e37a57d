import RequestFlow.Proofs.Template.Substitution

/-!
# Configurations that have been resolved

Resolving a configuration that has been resolved changes nothing, as long as opening braces come
from references alone: those of the configuration stand inside references, and what is put in place
of a reference has none. No new reference can arise then where texts are joined, so a resolved text
is cut into the references that reached nothing and into characters, and the former still reach
nothing.
-/

namespace RequestFlow

/-! ## The texts of a value with its texts changed -/

namespace Value

theorem mapItemTexts_eq_map
    (change : String → String)
    (items : List Value) :
    mapItemTexts change items = items.map (mapTexts change) := by
  induction items with
  | nil => rfl
  | cons item items inductionHypothesis => exact congrArg _ inductionHypothesis

theorem mapFieldTexts_eq_map
    (change : String → String)
    (fields : Fields) :
    mapFieldTexts change fields = fields.map fun field => (field.1, mapTexts change field.2) := by
  induction fields with
  | nil => rfl
  | cons field fields inductionHypothesis => exact congrArg _ inductionHypothesis

mutual

/-- Nothing changes if each text is changed into itself. -/
theorem mapTexts_id : (value : Value) → value.mapTexts id = value
  | .list items => congrArg Value.list (mapItemTexts_id items)
  | .tuple items => congrArg Value.tuple (mapItemTexts_id items)
  | .object fields => congrArg Value.object (mapFieldTexts_id fields)
  | .text _ | .null | .bool _ | .int _ | .float _ | .predicate _ => rfl

theorem mapItemTexts_id : (items : List Value) → mapItemTexts id items = items
  | [] => rfl
  | item :: items => congrArg₂ List.cons (mapTexts_id item) (mapItemTexts_id items)

theorem mapFieldTexts_id : (fields : List (Key × Value)) → mapFieldTexts id fields = fields
  | [] => rfl
  | (key, value) :: fields =>
    congrArg₂ List.cons (congrArg (Prod.mk key) (mapTexts_id value)) (mapFieldTexts_id fields)

end

theorem Contains.mapTexts
    {content : String}
    {value : Value}
    (held : value.Contains content)
    (change : String → String) :
    (value.mapTexts change).Contains (change content) := by
  induction held with
  | text => exact .text
  | list member _ inductionHypothesis =>
      rw [Value.mapTexts, mapItemTexts_eq_map]
      exact .list (List.mem_map_of_mem member) inductionHypothesis
  | tuple member _ inductionHypothesis =>
      rw [Value.mapTexts, mapItemTexts_eq_map]
      exact .tuple (List.mem_map_of_mem member) inductionHypothesis
  | object member _ inductionHypothesis =>
      rw [Value.mapTexts, mapFieldTexts_eq_map]
      exact .object (List.mem_map.2 ⟨_, member, rfl⟩) inductionHypothesis

theorem Contains.exists_of_mapTexts
    {change : String → String}
    {content : String}
    {value changed : Value}
    (held : changed.Contains content)
    (changes : value.mapTexts change = changed) :
    ∃ source, value.Contains source ∧ change source = content := by
  induction held generalizing value with
  | text =>
      cases value <;> cases changes
      exact ⟨_, .text, rfl⟩
  | list member _ inductionHypothesis =>
      cases value <;> cases changes
      rw [mapItemTexts_eq_map] at member
      obtain ⟨item, listed, same⟩ := List.mem_map.1 member
      obtain ⟨source, within, becomes⟩ := inductionHypothesis same
      exact ⟨source, .list listed within, becomes⟩
  | tuple member _ inductionHypothesis =>
      cases value <;> cases changes
      rw [mapItemTexts_eq_map] at member
      obtain ⟨item, listed, same⟩ := List.mem_map.1 member
      obtain ⟨source, within, becomes⟩ := inductionHypothesis same
      exact ⟨source, .tuple listed within, becomes⟩
  | object member _ inductionHypothesis =>
      cases value <;> cases changes
      rw [mapFieldTexts_eq_map] at member
      obtain ⟨field, listed, same⟩ := List.mem_map.1 member
      obtain ⟨source, within, becomes⟩ := inductionHypothesis (congrArg Prod.snd same)
      exact ⟨source, .object listed within, becomes⟩

/-- The texts of a value whose texts are changed are those that its texts are changed into. -/
theorem contains_mapTexts_iff
    {change : String → String}
    {content : String}
    {value : Value} :
    (value.mapTexts change).Contains content ↔
      ∃ source, value.Contains source ∧ change source = content := by
  constructor
  · intro held
    exact held.exists_of_mapTexts rfl
  · rintro ⟨source, held, rfl⟩
    exact held.mapTexts change

end Value

namespace Template

variable {memory : Memory}

/-! ## Braces -/

/-- Every opening brace of a text stands inside a part of it that is of the grammar. -/
def BracesInside (text : List Char) : Prop :=
  ∀ position, text[position]? = some '\x7b' →
    ∃ start stop, start ≤ position ∧ position < stop ∧ stop ≤ text.length ∧
      Grammar (text.extract start stop)

/-- A part of a text that is of the grammar is the place of a reference. -/
theorem bracesInside_iff
    {text : List Char} :
    BracesInside text ↔
      ∀ position < text.length, text[position]? = some '\x7b' →
        ∃ occurrence ∈ references text,
          occurrence.start ≤ position ∧ position < occurrence.stop := by
  constructor
  · intro inside position _ stands
    obtain ⟨start, stop, before, after, grammatical⟩ := inside position stands
    obtain ⟨occurrence, found, rfl, rfl⟩ := exists_mem_references_iff.2 grammatical
    exact ⟨occurrence, found, before, after⟩
  · intro inside position stands
    obtain ⟨within, -⟩ := List.getElem?_eq_some_iff.1 stands
    obtain ⟨occurrence, found, before, after⟩ := inside position within stands
    exact ⟨occurrence.start, occurrence.stop, before, after,
      exists_mem_references_iff.1 ⟨occurrence, found, rfl, rfl⟩⟩

instance (text : List Char) : Decidable (BracesInside text) :=
  decidable_of_iff _ bracesInside_iff.symm

/-- A character that is a piece of its own stands outside all references. -/
theorem exists_position_of_literal
    {text : List Char}
    {character : Char}
    {position : Nat}
    {cut : List Piece}
    (whole : text.drop position = cut.flatMap Piece.source)
    (member : .literal character ∈ cut) :
    ∃ place, position ≤ place ∧ text[place]? = some character ∧
      ∀ occurrence ∈ locate position cut,
        ¬(occurrence.start ≤ place ∧ place < occurrence.stop) := by
  induction cut generalizing position with
  | nil => cases member
  | cons piece cut inductionHypothesis =>
      rw [List.flatMap_cons] at whole
      have onward : text.drop (position + piece.source.length) = cut.flatMap Piece.source := by
        rw [← List.drop_drop, whole]
        exact List.drop_left
      cases piece with
      | literal first =>
          rcases List.mem_cons.1 member with same | later
          · cases same
            refine ⟨position, Nat.le_refl _, ?_, ?_⟩
            · rw [← List.head?_drop, whole]
              rfl
            · rintro occurrence found ⟨before, -⟩
              have after : position + 1 ≤ occurrence.start := start_of_mem_locate found
              omega
          · obtain ⟨place, after, stands, outside⟩ := inductionHypothesis onward later
            exact ⟨place, Nat.le_of_succ_le after, stands, outside⟩
      | reference reference =>
          have later : .literal character ∈ cut := by simpa using member
          obtain ⟨place, after, stands, outside⟩ := inductionHypothesis onward later
          refine ⟨place, by omega, stands, List.forall_mem_cons.2 ⟨?_, outside⟩⟩
          rintro ⟨-, before⟩
          exact Nat.not_lt.2 after before

/-- If all opening braces of a text stand inside references, none is a piece of its own. -/
theorem BracesInside.ne_of_literal
    {text : List Char}
    (inside : BracesInside text)
    {character : Char}
    (member : .literal character ∈ pieces text) :
    character ≠ '\x7b' := by
  rintro rfl
  have whole : text.drop 0 = (pieces text).flatMap Piece.source :=
    (flatMap_source_piecesAfter 0 text).symm
  obtain ⟨place, -, stands, outside⟩ := exists_position_of_literal whole member
  obtain ⟨within, -⟩ := List.getElem?_eq_some_iff.1 stands
  obtain ⟨occurrence, found, covers⟩ := bracesInside_iff.1 inside place within stands
  exact outside occurrence found covers

/-! ## Texts put together from pieces -/

/-- A piece that is cut off again wherever it is put: a character other than an opening brace, or a
reference of the grammar. -/
inductive Piece.IsSound : Piece → Prop
  | literal {character : Char} : character ≠ '\x7b' → IsSound (.literal character)
  | reference {reference : Reference} : reference.IsProper → IsSound (.reference reference)

/-- Only an opening brace begins a reference. -/
theorem reference?_cons_of_ne
    {character : Char}
    (other : character ≠ '\x7b')
    (rest : List Char) :
    reference? (character :: rest) = none := by
  rw [Option.eq_none_iff_forall_ne_some]
  intro reference read
  obtain ⟨after, begins⟩ := exists_of_reference? read
  exact other (List.cons.inj begins).1

/-- Sound pieces are what the text that they make up is cut into. -/
theorem pieces_flatMap_source
    {cut : List Piece}
    (sound : ∀ piece ∈ cut, piece.IsSound) :
    pieces (cut.flatMap Piece.source) = cut := by
  induction cut with
  | nil => rfl
  | cons piece cut inductionHypothesis =>
      obtain ⟨first, others⟩ := List.forall_mem_cons.1 sound
      rw [List.flatMap_cons]
      cases first with
      | literal other =>
          rw [Piece.source, List.singleton_append, pieces, piecesAfter, reference?_cons_of_ne other]
          exact congrArg _ (inductionHypothesis others)
      | reference proper =>
          rw [Piece.source, pieces_source_append proper, inductionHypothesis others]

/-- A reference is a piece of a text exactly if it stands there. -/
theorem reference_mem_pieces_iff
    {text : List Char}
    {reference : Reference} :
    .reference reference ∈ pieces text ↔ reference.IsProper ∧ reference.source <:+: text := by
  constructor
  · intro member
    obtain ⟨occurrence, found, rfl⟩ := exists_mem_locate member 0
    obtain ⟨proper, stands, -⟩ := mem_references_iff.1 found
    exact ⟨proper, stands.isInfix.trans (List.drop_suffix _ _).isInfix⟩
  · rintro ⟨proper, front, back, rfl⟩
    have found : ⟨front.length, front.length + reference.source.length, reference⟩ ∈
        references (front ++ reference.source ++ back) :=
      mem_references_iff.2 ⟨proper, by simp, rfl⟩
    exact mem_of_mem_locate found

/-! ## Pieces that have been resolved -/

/-- A reference that reaches nothing. -/
def Reference.IsVain
    (reference : Reference)
    (memory : Memory) : Prop :=
  ∀ value, ¬reference.Reaches memory value

/-- The text of whatever a reference reaches has no opening brace. -/
def Reference.IsPlain
    (reference : Reference)
    (memory : Memory) : Prop :=
  ∀ value content, reference.Reaches memory value → value.spliced = .ok content →
    '\x7b' ∉ content.toList

/-- The pieces make up what others resolve to. They are sound, and the references among them are
those of the others that reach nothing. -/
structure Settles
    (memory : Memory)
    (cut settled : List Piece) : Prop where
  /-- The text after one pass is that of the settled pieces. -/
  resolves : resolvePieces memory cut = .ok (settled.flatMap Piece.source)
  /-- Every settled piece is one that is cut out again. -/
  sound : ∀ piece ∈ settled, piece.IsSound
  /-- The references that are left are those that reach nothing. -/
  left : ∀ reference, .reference reference ∈ settled ↔
    .reference reference ∈ cut ∧ reference.IsVain memory

/-- A piece that resolves to the text of sound pieces may be put in front. -/
theorem Settles.cons
    {piece : Piece}
    {cut settled : List Piece}
    (settles : Settles memory cut settled)
    (first : List Piece)
    (resolves : resolvePiece memory piece = .ok (first.flatMap Piece.source))
    (sound : ∀ piece ∈ first, piece.IsSound)
    (left : ∀ reference, .reference reference ∈ first ↔
      .reference reference = piece ∧ reference.IsVain memory) :
    Settles memory (piece :: cut) (first ++ settled) where
  resolves := by
    rw [resolvePieces_cons, resolves, settles.resolves, List.flatMap_append]
    rfl
  sound := List.forall_mem_append.2 ⟨sound, settles.sound⟩
  left reference := by
    rw [List.mem_append, left, settles.left, List.mem_cons, or_and_right]

section Pieces

variable (json : RecordsJson memory)

include json

/-- A reference of the grammar settles: it stays if it reaches nothing, and otherwise it becomes
characters. -/
theorem Settles.reference
    {reference : Reference}
    {cut settled : List Piece}
    (settles : Settles memory cut settled)
    (proper : reference.IsProper)
    (short : ∀ segment ∈ reference.path, Value.IsShort segment)
    (plain : reference.IsPlain memory) :
    ∃ settled, Settles memory (.reference reference :: cut) settled := by
  obtain ⟨_, resolved, replacement⟩ := exists_replacement json short
  cases replacement with
  | @text value content reached spliced =>
      have whole : (content.toList.map Piece.literal).flatMap Piece.source = content.toList := by
        rw [List.flatMap_map]
        exact List.flatMap_singleton' _
      refine ⟨_, settles.cons (content.toList.map .literal) (by rw [resolved, whole]) ?_ ?_⟩
      · intro piece member
        obtain ⟨character, listed, rfl⟩ := List.mem_map.1 member
        refine .literal ?_
        rintro rfl
        exact plain value content reached spliced listed
      · intro other
        constructor
        · intro member
          obtain ⟨character, -, same⟩ := List.mem_map.1 member
          cases same
        · rintro ⟨same, vain⟩
          cases same
          exact absurd reached (vain value)
  | source vain =>
      have whole : [Piece.reference reference].flatMap Piece.source = reference.source :=
        List.append_nil _
      refine ⟨_, settles.cons [.reference reference] (by rw [resolved, whole]) ?_ ?_⟩
      · exact List.forall_mem_singleton.2 (.reference proper)
      · intro other
        rw [List.mem_singleton]
        refine ⟨fun same => ⟨same, ?_⟩, And.left⟩
        cases same
        exact vain

/-- Pieces without an opening brace of their own settle. -/
theorem exists_settles
    {cut : List Piece}
    (sound : ∀ piece ∈ cut, piece.IsSound)
    (short : ∀ reference, .reference reference ∈ cut →
      ∀ segment ∈ reference.path, Value.IsShort segment)
    (plain : ∀ reference, .reference reference ∈ cut → reference.IsPlain memory) :
    ∃ settled, Settles memory cut settled := by
  induction cut with
  | nil => exact ⟨[], rfl, List.forall_mem_nil _, by simp⟩
  | cons piece cut inductionHypothesis =>
      obtain ⟨first, others⟩ := List.forall_mem_cons.1 sound
      obtain ⟨settled, settles⟩ := inductionHypothesis others
        (fun reference member => short reference (List.mem_cons_of_mem _ member))
        (fun reference member => plain reference (List.mem_cons_of_mem _ member))
      cases first with
      | @literal character other =>
          refine ⟨_, settles.cons [.literal character] rfl ?_ ?_⟩
          · exact List.forall_mem_singleton.2 (.literal other)
          · simp
      | @reference reference proper =>
          exact settles.reference json proper (short reference List.mem_cons_self)
            (plain reference List.mem_cons_self)

/-- Pieces that have been resolved resolve to themselves. -/
theorem Settles.stays
    {cut settled : List Piece}
    (settles : Settles memory cut settled)
    (short : ∀ reference, .reference reference ∈ cut →
      ∀ segment ∈ reference.path, Value.IsShort segment) :
    resolvePieces memory settled = .ok (settled.flatMap Piece.source) := by
  have itself : Piece.replaced Reference.source = Piece.source := by
    funext piece
    cases piece <;> rfl
  rw [← itself]
  apply resolvePieces_eq_flatMap
  intro reference member
  obtain ⟨stood, vain⟩ := (settles.left reference).1 member
  obtain ⟨_, resolved, replacement⟩ := exists_replacement json (short reference stood)
  cases replacement with
  | text reached spliced => exact absurd reached (vain _)
  | source => exact resolved

/-- What a text resolves to resolves to itself, and the references in it are those of the text that
reach nothing. -/
theorem exists_resolveText_twice
    {content : String}
    (short : ∀ count, ¬MentionsOverlong count content)
    (inside : BracesInside content.toList)
    (plain : ∀ reference, .reference reference ∈ pieces content.toList →
      reference.IsPlain memory) :
    ∃ result,
      resolveText memory content = .ok result ∧
      resolveText memory result = .ok result ∧
      ∀ reference, .reference reference ∈ pieces result.toList ↔
        .reference reference ∈ pieces content.toList ∧ reference.IsVain memory := by
  have sound : ∀ piece ∈ pieces content.toList, piece.IsSound := by
    intro piece member
    cases piece with
    | literal character => exact .literal (inside.ne_of_literal member)
    | reference reference => exact .reference (reference_mem_pieces_iff.1 member).1
  have shortPaths : ∀ reference, .reference reference ∈ pieces content.toList →
      ∀ segment ∈ reference.path, Value.IsShort segment :=
    fun _ member => isShort_of_not_mentionsOverlong short member
  obtain ⟨settled, settles⟩ := exists_settles json sound shortPaths plain
  have cut : pieces (settled.flatMap Piece.source) = settled := pieces_flatMap_source settles.sound
  refine ⟨String.ofList (settled.flatMap Piece.source), ?_, ?_, ?_⟩
  · rw [resolveText, settles.resolves]
    rfl
  · rw [resolveText, String.toList_ofList, cut, settles.stays json shortPaths]
    rfl
  · rw [String.toList_ofList, cut]
    exact settles.left

end Pieces

/-! ## Configurations that have been resolved -/

/-- A configuration stays as it is if its texts do. -/
theorem resolve_eq_self
    {value : Value}
    (resolves : ∀ content, value.Contains content → resolveText memory content = .ok content) :
    resolve memory value = .ok value := by
  have resolved := resolve_eq_mapTexts id value resolves
  rwa [Value.mapTexts_id] at resolved

/-- A reference stands in one of the texts of a configuration. -/
def Mentions
    (value : Value)
    (reference : Reference) : Prop :=
  ∃ content,
    value.Contains content ∧ reference.IsProper ∧ reference.source <:+: content.toList

theorem mentions_iff
    {value : Value}
    {reference : Reference} :
    Mentions value reference ↔
      ∃ content, value.Contains content ∧ .reference reference ∈ pieces content.toList := by
  simp only [Mentions, reference_mem_pieces_iff]

/-- Resolving a configuration that has been resolved changes nothing, and the references in it are
those that reach nothing. All payloads that are recorded are JSON, no reference has a number of too
many digits in its path, each opening brace stands inside a reference, and none is in the text of
what a reference reaches. -/
theorem resolve_resolved
    (json : RecordsJson memory)
    {value : Value}
    (short : ∀ count, ¬OverlongIn value count)
    (inside : ∀ content, value.Contains content → BracesInside content.toList)
    (plain : ∀ reference, Mentions value reference → reference.IsPlain memory) :
    ∃ resolved,
      resolve memory value = .ok resolved ∧
      resolve memory resolved = .ok resolved ∧
      ∀ reference, Mentions resolved reference ↔
        Mentions value reference ∧ reference.IsVain memory := by
  have each : ∀ content, value.Contains content → ∃ result,
      resolveText memory content = .ok result ∧
      resolveText memory result = .ok result ∧
      ∀ reference, .reference reference ∈ pieces result.toList ↔
        .reference reference ∈ pieces content.toList ∧ reference.IsVain memory :=
    fun content held =>
      exists_resolveText_twice json (fun count overlong => short count ⟨content, held, overlong⟩)
        (inside content held)
        (fun reference member => plain reference (mentions_iff.2 ⟨content, held, member⟩))
  choose! change resolves stays left using each
  refine ⟨value.mapTexts change, resolve_eq_mapTexts change value resolves, ?_, ?_⟩
  · apply resolve_eq_self
    intro content held
    obtain ⟨source, within, rfl⟩ := Value.contains_mapTexts_iff.1 held
    exact stays source within
  · intro reference
    rw [mentions_iff, mentions_iff]
    constructor
    · rintro ⟨content, held, member⟩
      obtain ⟨source, within, rfl⟩ := Value.contains_mapTexts_iff.1 held
      obtain ⟨stood, vain⟩ := (left source within reference).1 member
      exact ⟨⟨source, within, stood⟩, vain⟩
    · rintro ⟨⟨source, within, stood⟩, vain⟩
      exact ⟨change source, within.mapTexts change,
        (left source within reference).2 ⟨stood, vain⟩⟩

/-- What a reference reaches is what looking it up finds. -/
theorem isPlain_of_lookup
    (json : RecordsJson memory)
    {reference : Reference}
    (short : ∀ segment ∈ reference.path, Value.IsShort segment)
    (plain : ∀ value ∈ (lookup memory reference).toOption.join,
      ∀ content ∈ value.spliced.toOption, '\x7b' ∉ content.toList) :
    reference.IsPlain memory := by
  intro value content reached spliced
  obtain ⟨found, looked, reaches⟩ := exists_lookup json short
  obtain rfl := (reaches value).2 reached
  refine plain value ?_ content ?_
  · rw [looked]
    rfl
  · rw [spliced]
    rfl

namespace Sample

/-- The first of these references reach a number and a list, and the last one reaches nothing. -/
def account : String :=
  "{{n.out.rows.2}}{{n.out.rows}} {{n.in.name}}"

/-- The reference that reaches nothing is left. -/
def accounted : String :=
  "7[null,2.0,7] {{n.in.name}}"

theorem eq_account_of_contains
    {content : String}
    (held : (Value.list [.text account]).Contains content) :
    content = account := by
  cases held with
  | list member held =>
      obtain rfl := List.mem_singleton.1 member
      cases held
      rfl

theorem not_mentionsOverlong_account (count : Nat) : ¬MentionsOverlong count account := by
  apply not_mentionsOverlong
  decide +kernel

theorem isPlain_of_mem_account
    {reference : Reference}
    (member : .reference reference ∈ pieces account.toList) :
    reference.IsPlain recorded := by
  have short := isShort_of_not_mentionsOverlong not_mentionsOverlong_account member
  refine isPlain_of_lookup recordsJson_recorded short ?_
  have each : ∀ occurrence ∈ references account.toList,
      ∀ value ∈ (lookup recorded occurrence.reference).toOption.join,
        ∀ content ∈ value.spliced.toOption, '\x7b' ∉ content.toList := by
    decide +kernel
  obtain ⟨occurrence, found, rfl⟩ := exists_mem_locate member 0
  exact each occurrence found

end Sample

/-- The account is settled when it has been resolved once. -/
theorem resolve_resolved_account :
    RecordsJson Sample.recorded ∧
    (∀ count, ¬OverlongIn (.list [.text Sample.account]) count) ∧
    (∀ content, (Value.list [.text Sample.account]).Contains content →
      BracesInside content.toList) ∧
    (∀ reference, Mentions (.list [.text Sample.account]) reference →
      reference.IsPlain Sample.recorded) ∧
    resolve Sample.recorded (.list [.text Sample.account]) =
      .ok (.list [.text Sample.accounted]) ∧
    resolve Sample.recorded (.list [.text Sample.accounted]) =
      .ok (.list [.text Sample.accounted]) ∧
    ∀ reference, Mentions (.list [.text Sample.accounted]) reference ↔
      Mentions (.list [.text Sample.account]) reference ∧
        reference.IsVain Sample.recorded := by
  have short : ∀ count, ¬OverlongIn (.list [.text Sample.account]) count := by
    rintro count ⟨content, held, overlong⟩
    rw [Sample.eq_account_of_contains held] at overlong
    exact Sample.not_mentionsOverlong_account count overlong
  have inside : ∀ content, (Value.list [.text Sample.account]).Contains content →
      BracesInside content.toList := by
    intro content held
    rw [Sample.eq_account_of_contains held]
    decide +kernel
  have plain : ∀ reference, Mentions (.list [.text Sample.account]) reference →
      reference.IsPlain Sample.recorded := by
    intro reference mentioned
    obtain ⟨content, held, member⟩ := mentions_iff.1 mentioned
    rw [Sample.eq_account_of_contains held] at member
    exact Sample.isPlain_of_mem_account member
  have once : resolve Sample.recorded (.list [.text Sample.account]) =
      .ok (.list [.text Sample.accounted]) := by
    have written : (resolveText Sample.recorded Sample.account).toOption =
        some Sample.accounted := by
      decide +kernel
    cases result : resolveText Sample.recorded Sample.account with
    | error fault => simp [result, Except.toOption] at written
    | ok content =>
        obtain rfl : content = Sample.accounted := by simpa [result, Except.toOption] using written
        rw [resolve, resolveItems_cons, resolve, result]
        rfl
  obtain ⟨resolved, first, stays, left⟩ :=
    resolve_resolved Sample.recordsJson_recorded short inside plain
  obtain rfl := Except.ok.inj (once.symm.trans first)
  exact ⟨Sample.recordsJson_recorded, short, inside, plain, once, stays, left⟩

end Template
end RequestFlow
