import Mathlib.Tactic.Choose
import RequestFlow.Proofs.Template.Occurrence
import RequestFlow.Proofs.Template.Reached

/-!
# What resolving does to a configuration

Resolving changes the texts of a configuration and nothing else. Of a text it changes the places
where references stand: each is replaced by the text of what the reference reaches, or keeps its own
text if it reaches nothing. All this is decided by the text as it was, so one replacement has no
part in another, and no replacement is looked into for references.
-/

namespace RequestFlow

/-! ## Texts in place -/

namespace Value

mutual

/-- A value with its texts changed, whose shape, keys and other leaves are the same. -/
def mapTexts (change : String → String) : Value → Value
  | .text content => .text (change content)
  | .list items => .list (mapItemTexts change items)
  | .tuple items => .tuple (mapItemTexts change items)
  | .object fields => .object (mapFieldTexts change fields)
  | value => value

/-- The items of a list with their texts changed. -/
def mapItemTexts (change : String → String) : List Value → List Value
  | [] => []
  | item :: items => mapTexts change item :: mapItemTexts change items

/-- The fields of an object with the texts of their values changed. -/
def mapFieldTexts (change : String → String) : List (Key × Value) → List (Key × Value)
  | [] => []
  | (key, value) :: fields => (key, mapTexts change value) :: mapFieldTexts change fields

end

end Value

namespace Template

variable {memory : Memory}

mutual

/-- A configuration is resolved by resolving its texts. -/
theorem resolve_eq_mapTexts
    (change : String → String) :
    (value : Value) →
      (∀ content, value.Contains content → resolveText memory content = .ok (change content)) →
      resolve memory value = .ok (value.mapTexts change)
  | .text content, resolves => by
      rw [resolve, resolves content .text]
      rfl
  | .list items, resolves => by
      rw [resolve, resolveItems_eq_mapItemTexts change items fun item member content held =>
        resolves content (.list member held)]
      rfl
  | .tuple items, resolves => by
      rw [resolve, resolveItems_eq_mapItemTexts change items fun item member content held =>
        resolves content (.tuple member held)]
      rfl
  | .object fields, resolves => by
      rw [resolve, resolveFields_eq_mapFieldTexts change fields fun field member content held =>
        resolves content (.object member held)]
      rfl
  | .null, _ | .bool _, _ | .int _, _ | .float _, _ | .predicate _, _ => rfl

theorem resolveItems_eq_mapItemTexts
    (change : String → String) :
    (items : List Value) →
      (∀ item ∈ items, ∀ content, item.Contains content →
        resolveText memory content = .ok (change content)) →
      resolveItems memory items = .ok (Value.mapItemTexts change items)
  | [], _ => rfl
  | item :: items, resolves => by
      obtain ⟨first, others⟩ := List.forall_mem_cons.1 resolves
      rw [resolveItems_cons, resolve_eq_mapTexts change item first,
        resolveItems_eq_mapItemTexts change items others]
      rfl

theorem resolveFields_eq_mapFieldTexts
    (change : String → String) :
    (fields : List (Key × Value)) →
      (∀ field ∈ fields, ∀ content, field.2.Contains content →
        resolveText memory content = .ok (change content)) →
      resolveFields memory fields = .ok (Value.mapFieldTexts change fields)
  | [], _ => rfl
  | (key, value) :: fields, resolves => by
      obtain ⟨first, others⟩ := List.forall_mem_cons.1 resolves
      rw [resolveFields_cons, resolve_eq_mapTexts change value first,
        resolveFields_eq_mapFieldTexts change fields others]
      rfl

end

/-! ## Replacing in a text -/

/-- A text from a position on, where each of the places that follow is replaced and all that stands
between them is kept. -/
def splice
    (text : List Char)
    (replacement : Reference → List Char)
    (position : Nat) : List Occurrence → List Char
  | [] => text.drop position
  | place :: places =>
    text.extract position place.start ++ replacement place.reference ++
      splice text replacement place.stop places

/-- The text that stands for a piece when references are replaced. -/
def Piece.replaced (replacement : Reference → List Char) : Piece → List Char
  | .literal character => [character]
  | .reference occurring => replacement occurring

/-- The pieces of a text make up what follows the characters that are passed over. -/
theorem flatMap_source_piecesAfter
    (covered : Nat)
    (text : List Char) :
    (piecesAfter covered text).flatMap Piece.source = text.drop covered := by
  induction text generalizing covered with
  | nil => cases covered <;> rfl
  | cons character rest inductionHypothesis =>
      cases covered with
      | succ covered => exact inductionHypothesis covered
      | zero =>
          rw [piecesAfter]
          split
          next reference read =>
            obtain ⟨-, after, whole⟩ := reference?_eq_some_iff.1 read
            rw [Reference.source_eq_cons, List.cons_append] at whole
            obtain ⟨first, rest_eq⟩ := List.cons.inj whole
            rw [List.flatMap_cons, inductionHypothesis, Piece.source, Reference.source_eq_cons,
              List.length_cons, Nat.add_sub_cancel, ← rest_eq, List.drop_left, ← first]
            rfl
          next unread =>
            rw [List.flatMap_cons, inductionHypothesis]
            rfl

/-- One more character of a part that is taken out of a text. -/
theorem extract_succ
    {text rest : List Char}
    {first position : Nat}
    {character : Char}
    (ordered : first ≤ position)
    (follows : text.drop position = character :: rest) :
    text.extract first (position + 1) = text.extract first position ++ [character] := by
  have present : text[position]? = some character := by
    rw [← List.head?_drop, follows]
    rfl
  rw [List.extract_eq_take_drop, List.extract_eq_take_drop, Nat.succ_sub ordered, List.take_add_one,
    List.getElem?_drop, Nat.add_sub_cancel' ordered, present]
  rfl

/-- Replacing the references among the pieces of a text is replacing them in the text, in which
what comes before the pieces is kept from some position on. -/
theorem splice_locate
    {text : List Char}
    (replacement : Reference → List Char)
    {first position : Nat}
    (ordered : first ≤ position)
    {cut : List Piece}
    (whole : text.drop position = cut.flatMap Piece.source) :
    splice text replacement first (locate position cut) =
      text.extract first position ++ cut.flatMap (Piece.replaced replacement) := by
  induction cut generalizing first position with
  | nil =>
      have ended : text.length ≤ position := List.drop_eq_nil_iff.1 whole
      rw [locate, splice, List.flatMap_nil, List.append_nil, List.extract_eq_take_drop,
        List.take_of_length_le]
      rw [List.length_drop]
      omega
  | cons piece cut inductionHypothesis =>
      rw [List.flatMap_cons] at whole
      cases piece with
      | literal character =>
          -- A literal is no place of its own: it lengthens what the next place keeps before itself.
          have onward : text.drop (position + 1) = cut.flatMap Piece.source := by
            rw [← List.drop_drop, whole]
            rfl
          rw [locate, inductionHypothesis (by omega) onward, extract_succ ordered whole,
            List.append_assoc, List.flatMap_cons]
          rfl
      | reference reference =>
          have onward : text.drop (position + reference.source.length) =
              cut.flatMap Piece.source := by
            rw [← List.drop_drop, whole]
            exact List.drop_left
          have nothing : text.extract (position + reference.source.length)
              (position + reference.source.length) = [] := by
            rw [List.extract_eq_take_drop, Nat.sub_self, List.take_zero]
          rw [locate, splice, inductionHypothesis (Nat.le_refl _) onward, nothing, List.nil_append,
            List.append_assoc, List.flatMap_cons]
          rfl

theorem mem_of_mem_locate
    {position : Nat}
    {cut : List Piece}
    {place : Occurrence}
    (found : place ∈ locate position cut) :
    .reference place.reference ∈ cut := by
  induction cut generalizing position with
  | nil => cases found
  | cons piece cut inductionHypothesis =>
      cases piece with
      | literal character => exact List.mem_cons_of_mem _ (inductionHypothesis found)
      | reference reference =>
          rcases List.mem_cons.1 found with rfl | later
          · exact List.mem_cons_self
          · exact List.mem_cons_of_mem _ (inductionHypothesis later)

theorem resolvePieces_eq_flatMap
    {replacement : Reference → List Char}
    {cut : List Piece}
    (replaces : ∀ reference, .reference reference ∈ cut →
      resolvePiece memory (.reference reference) = .ok (replacement reference)) :
    resolvePieces memory cut = .ok (cut.flatMap (Piece.replaced replacement)) := by
  induction cut with
  | nil => rfl
  | cons piece cut inductionHypothesis =>
      have first : resolvePiece memory piece = .ok (piece.replaced replacement) := by
        cases piece with
        | literal character => rfl
        | reference reference => exact replaces reference List.mem_cons_self
      have others := inductionHypothesis fun reference member =>
        replaces reference (List.mem_cons_of_mem _ member)
      rw [resolvePieces_cons, first, others, List.flatMap_cons]
      rfl

/-! ## What stands for a reference -/

/-- What stands for a reference: the text of the value that it reaches, and its own text if it
reaches none. -/
inductive Replacement
    (memory : Memory)
    (reference : Reference) : List Char → Prop
  | text {value : Value} {content : String} :
      reference.Reaches memory value →
      value.spliced = .ok content →
      Replacement memory reference content.toList
  | source :
      (∀ value, ¬reference.Reaches memory value) →
      Replacement memory reference reference.source

/-- A reference is replaced by what stands for it. -/
theorem exists_replacement
    (json : RecordsJson memory)
    {reference : Reference}
    (short : ∀ segment ∈ reference.path, Value.IsShort segment) :
    ∃ replacement,
      resolvePiece memory (.reference reference) = .ok replacement ∧
      Replacement memory reference replacement := by
  obtain ⟨found, looked, reaches⟩ := exists_lookup json short
  rw [resolvePiece_reference, looked]
  cases found with
  | none =>
      refine ⟨_, rfl, .source ?_⟩
      intro value reached
      cases (reaches value).2 reached
  | some value =>
      have reached : reference.Reaches memory value := (reaches value).1 rfl
      obtain ⟨content, spliced⟩ := Value.exists_spliced (reached.isPayload json).writable
      refine ⟨content.toList, ?_, .text reached spliced⟩
      change value.spliced.map String.toList = _
      rw [spliced]
      rfl

/-! ## The texts of a configuration -/

/-- The references of a text with their places: they are where the grammar matches, each ends before
the next one starts, and each is spelt by its place. -/
structure AreReferences
    (text : List Char)
    (places : List Occurrence) : Prop where
  /-- They are exactly the parts of the text that the grammar admits. -/
  everywhere : ∀ start stop,
    (∃ place ∈ places, place.start = start ∧ place.stop = stop) ↔
      stop ≤ text.length ∧ Grammar (text.extract start stop)
  /-- They are listed in order and do not overlap. -/
  ordered : places.Pairwise fun first second =>
    first.start < second.start ∧ first.stop ≤ second.start
  /-- Each is spelt as it stands in the text. -/
  spelt : ∀ place ∈ places,
    place.reference.IsProper ∧ place.reference.source = text.extract place.start place.stop

theorem areReferences_references
    (text : List Char) :
    AreReferences text (references text) where
  everywhere _ _ := exists_mem_references_iff
  ordered := pairwise_locate 0 (pieces text)
  spelt place found := by
    obtain ⟨proper, stands, ends⟩ := mem_references_iff.1 found
    have spelt := (extract_eq_iff place.reference.source_ne_nil).2 ⟨stands, ends⟩
    exact ⟨proper, spelt.2.symm⟩

/-- The result is the text in which, all at once, each reference is replaced by what stands for it.
-/
def Substitutes
    (memory : Memory)
    (text result : List Char) : Prop :=
  ∃ places replacement,
    AreReferences text places ∧
    (∀ place ∈ places, Replacement memory place.reference (replacement place.reference)) ∧
    result = splice text replacement 0 places

/-- The paths among pieces are short, if the text mentions no number of too many digits. -/
theorem isShort_of_not_mentionsOverlong
    {content : String}
    (short : ∀ count, ¬MentionsOverlong count content)
    {reference : Reference}
    (member : .reference reference ∈ pieces content.toList) :
    ∀ segment ∈ reference.path, Value.IsShort segment := by
  intro segment inPath digits
  obtain ⟨place, found, rfl⟩ := exists_mem_locate member 0
  apply Nat.le_of_not_lt
  intro beyond
  exact short segment.length ⟨place, found, segment, inPath, digits, rfl, beyond⟩

theorem exists_resolveText
    (json : RecordsJson memory)
    {content : String}
    (short : ∀ count, ¬MentionsOverlong count content) :
    ∃ result,
      resolveText memory content = .ok result ∧
      Substitutes memory content.toList result.toList := by
  have each : ∀ reference, .reference reference ∈ pieces content.toList → ∃ replacement,
      resolvePiece memory (.reference reference) = .ok replacement ∧
        Replacement memory reference replacement :=
    fun reference member => exists_replacement json (isShort_of_not_mentionsOverlong short member)
  choose! replacement replaces using each
  have resolved := resolvePieces_eq_flatMap fun reference member => (replaces reference member).1
  have whole : content.toList.drop 0 = (pieces content.toList).flatMap Piece.source :=
    (flatMap_source_piecesAfter 0 content.toList).symm
  have spliced := splice_locate replacement (Nat.le_refl 0) whole
  refine ⟨_, by rw [resolveText, resolved]; rfl, references content.toList, replacement,
    areReferences_references _, ?_, ?_⟩
  · intro place found
    exact (replaces _ (mem_of_mem_locate found)).2
  · rw [String.toList_ofList, references, spliced]
    rfl

/-- Resolving a configuration changes its texts and leaves all else as it is. In each text the
references are replaced at once, each by what stands for it; what stands between them is kept. All
payloads that are recorded are JSON, and no reference has a number of too many digits in its path.
-/
theorem resolve_substitutes
    (json : RecordsJson memory)
    {value : Value}
    (short : ∀ count, ¬OverlongIn value count) :
    ∃ change : String → String,
      resolve memory value = .ok (value.mapTexts change) ∧
      ∀ content, value.Contains content →
        Substitutes memory content.toList (change content).toList := by
  have each : ∀ content, value.Contains content → ∃ result,
      resolveText memory content = .ok result ∧
        Substitutes memory content.toList result.toList :=
    fun content held =>
      exists_resolveText json fun count overlong => short count ⟨content, held, overlong⟩
  choose! change changes using each
  refine ⟨change, ?_, fun content held => (changes content held).2⟩
  exact resolve_eq_mapTexts change value fun content held => (changes content held).1

/-- Nothing overlong is mentioned where all segments are short. -/
theorem not_mentionsOverlong
    {content : String}
    (short : ∀ place ∈ references content.toList, ∀ segment ∈ place.reference.path,
      segment.length ≤ Numeral.digitLimit)
    (count : Nat) :
    ¬MentionsOverlong count content := by
  rintro ⟨place, found, segment, inPath, -, rfl, beyond⟩
  exact absurd (short place found segment inPath) (Nat.not_le.2 beyond)

namespace Sample

/-- A payload with a text that looks like a reference, and with a list. -/
def guest : Value :=
  .record [("name", .text "{{n.out.rows.0}}"), ("rows", .list [.null, .float (.ofInt 2), .int 7])]

def recorded : Memory :=
  Memory.empty.record "n" (.text "out") guest

/-- The first of these references reaches a text, the ones next to each other reach null and a
number, and the last ones reach nothing. -/
def greeting : String :=
  "Hi {{n.out.name}}{{n.out.rows.0}}{{n.out.rows.02}}, {{n.out.rows.3}}{{n.out..}}{{n.in.name}}!"

/-- The name that is put into the greeting is not looked into for references. -/
def greeted : String :=
  "Hi {{n.out.rows.0}}7, {{n.out.rows.3}}{{n.out..}}{{n.in.name}}!"

def configuration : Value :=
  .object [(.int 1, .tuple [.bool true, .text greeting]), (.text "{{n.out.name}}", .null)]

theorem eq_greeting_of_contains
    {content : String}
    (held : configuration.Contains content) :
    content = greeting := by
  cases held with
  | object member held =>
      simp only [List.mem_cons, List.not_mem_nil, or_false] at member
      rcases member with rfl | rfl
      · cases held with
        | tuple member held =>
            simp only [List.mem_cons, List.not_mem_nil, or_false] at member
            rcases member with rfl | rfl
            · cases held
            · cases held
              rfl
      · cases held

theorem recordsJson_recorded : RecordsJson recorded := by
  have rows : Json.IsPayload (.list [.null, .float (.ofInt 2), .int 7]) :=
    .list _ (by simp [Json.IsPayload.null, Json.IsPayload.float, Json.IsPayload.int 7 (by decide)])
  have guest : Json.IsPayload guest :=
    .record _ (by decide) (by simp [Json.IsPayload.text, rows])
  have each : ∀ entry ∈ recorded.outputs, ∀ field ∈ entry.2, Json.IsPayload field.2 := by
    simp [recorded, Memory.record, Memory.empty, guest]
  intro node key payload present
  obtain ⟨fields, named, found⟩ := Option.bind_eq_some_iff.1 present
  have inNode : ∀ field ∈ fields, Json.IsPayload field.2 :=
    Assoc.of_get? (fun fields : Fields => ∀ field ∈ fields, Json.IsPayload field.2) each named
  exact Assoc.of_get? Json.IsPayload inNode found

end Sample

/-- The greeting is replaced, and neither the keys nor the leaf beside it are changed. -/
theorem resolve_substitutes_greeting :
    RecordsJson Sample.recorded ∧
    (∀ count, ¬OverlongIn Sample.configuration count) ∧
    resolve Sample.recorded Sample.configuration =
      .ok (.object [(.int 1, .tuple [.bool true, .text Sample.greeted]),
        (.text "{{n.out.name}}", .null)]) ∧
    ∃ change : String → String,
      resolve Sample.recorded Sample.configuration = .ok (Sample.configuration.mapTexts change) ∧
      Substitutes Sample.recorded Sample.greeting.toList (change Sample.greeting).toList := by
  have short : ∀ count, ¬OverlongIn Sample.configuration count := by
    rintro count ⟨content, held, overlong⟩
    rw [Sample.eq_greeting_of_contains held] at overlong
    exact not_mentionsOverlong (by decide) count overlong
  have greeted : resolveText Sample.recorded Sample.greeting = .ok Sample.greeted := by
    have resolved : (resolveText Sample.recorded Sample.greeting).toOption =
        some Sample.greeted := by
      decide +kernel
    cases result : resolveText Sample.recorded Sample.greeting with
    | error fault => simp [result, Except.toOption] at resolved
    | ok content => simpa [result, Except.toOption] using resolved
  have resolved := resolve_eq_mapTexts (fun _ => Sample.greeted) Sample.configuration
    fun content held => by
      rw [Sample.eq_greeting_of_contains held]
      exact greeted
  obtain ⟨change, changes, substitutes⟩ :=
    resolve_substitutes Sample.recordsJson_recorded short
  have inside : Sample.configuration.Contains Sample.greeting :=
    .object List.mem_cons_self (.tuple (List.mem_cons_of_mem _ List.mem_cons_self) .text)
  exact ⟨Sample.recordsJson_recorded, short, resolved, change, changes, substitutes _ inside⟩

end Template
end RequestFlow
