import RequestFlow.Proofs.Flow.Writable
import RequestFlow.Proofs.Template.Reference
import RequestFlow.Template.Resolve

/-!
# What resolving references can fail for

A segment of a path that is written with digits alone is read as a position, and a number of too
many digits is not read. Where everything recorded can be written as JSON this is the one way in
which resolving fails, and the number stands in a reference of the configuration. Otherwise what is
resolved can be written again.
-/

namespace RequestFlow

open Json

/-- The value is a text, or the text stands in one of its items or fields. -/
inductive Value.Contains (content : String) : Value → Prop
  | text : Contains content (.text content)
  | list {items : List Value} {item : Value} :
      item ∈ items → Contains content item → Contains content (.list items)
  | tuple {items : List Value} {item : Value} :
      item ∈ items → Contains content item → Contains content (.tuple items)
  | object {fields : List (Key × Value)} {field : Key × Value} :
      field ∈ fields → Contains content field.2 → Contains content (.object fields)

/-- A fault for a number of too many digits, whose number of digits is one of those given. -/
inductive Fault.TooLong (lengths : Nat → Prop) : Fault → Prop
  | intro {count : Nat} : lengths count → TooLong lengths (.tooManyDigits count)

theorem Fault.TooLong.mono
    {lengths others : Nat → Prop}
    (contained : ∀ count, lengths count → others count)
    (fault : Fault)
    (tooLong : fault.TooLong lengths) :
    fault.TooLong others := by
  obtain ⟨holds⟩ := tooLong
  exact ⟨contained _ holds⟩

namespace Template

/-- A path with a segment that is a number of so many digits, more than are converted. -/
def HasOverlong (count : Nat) (path : List (List Char)) : Prop :=
  ∃ segment ∈ path,
    segment.all Char.isDigit = true ∧ segment.length = count ∧ Numeral.digitLimit < count

/-- A text with a reference whose path has such a segment. -/
def MentionsOverlong (count : Nat) (content : String) : Prop :=
  ∃ occurrence ∈ references content.toList, HasOverlong count occurrence.reference.path

/-- A number of too many digits stands in some text of a value. -/
def OverlongIn (value : Value) (count : Nat) : Prop :=
  ∃ content, value.Contains content ∧ MentionsOverlong count content

end Template

namespace Value

open Template

/-- A value or nothing, where the value can be written. -/
def PartWritable (found : Option Value) : Prop :=
  ∀ part, found = some part → Writable part

theorem yields_index? (segment : List Char) :
    Yields (fun _ => True) (Fault.TooLong (HasOverlong · [segment])) (index? segment) := by
  unfold index?
  split
  · exact .ok trivial
  next written =>
    split
    next beyond =>
      simp only [Bool.or_eq_true, Bool.not_eq_true', not_or, Bool.not_eq_false] at written
      exact .error ⟨segment, List.mem_cons_self, written.2, rfl, beyond⟩
    · exact .ok trivial

/-- Digits alone, and more than are converted, are not read. -/
theorem index?_of_beyond
    {segment : List Char}
    (digits : segment.all Char.isDigit = true)
    (beyond : Numeral.digitLimit < segment.length) :
    index? segment = .error (.tooManyDigits segment.length) := by
  have some_digit : segment.isEmpty = false := by
    cases segment with
    | nil => cases beyond
    | cons digit segment => rfl
  rw [index?, digits, some_digit]
  exact if_pos beyond

theorem step_object
    (fields : Fields)
    (segment : List Char) :
    (Value.object fields).step segment =
      match Assoc.get? (.text (String.ofList segment)) fields with
      | some found => .ok (some found)
      | none =>
        (index? segment).map (·.bind fun position => Assoc.get? (.int position) fields) := by
  simp only [step]
  cases Assoc.get? (.text (String.ofList segment)) fields with
  | some found => rfl
  | none => rcases index? segment with fault | _ | position <;> rfl

theorem step_list
    (items : List Value)
    (segment : List Char) :
    (Value.list items).step segment = (index? segment).map (·.bind (items[·]?)) := by
  unfold step
  rcases index? segment with fault | _ | position <;> rfl

theorem step_tuple
    (items : List Value)
    (segment : List Char) :
    (Value.tuple items).step segment = (index? segment).map (·.bind (items[·]?)) := by
  unfold step
  rcases index? segment with fault | _ | position <;> rfl

theorem partWritable_getElem?
    {items : List Value}
    (each : ∀ item ∈ items, Writable item)
    (position : Option Nat) :
    PartWritable (position.bind (items[·]?)) := by
  intro part found
  obtain ⟨_, -, present⟩ := Option.bind_eq_some_iff.1 found
  exact each part (List.mem_of_getElem? present)

theorem yields_step
    {value : Value}
    (writable : Writable value)
    (segment : List Char) :
    Yields PartWritable (Fault.TooLong (HasOverlong · [segment])) (value.step segment) := by
  have position := yields_index? segment
  cases value with
  | object fields =>
      rw [step_object]
      split
      next found named =>
        refine .ok fun part same => ?_
        cases same
        exact writable.get? named
      · refine position.map fun found _ part present => ?_
        obtain ⟨_, -, numbered⟩ := Option.bind_eq_some_iff.1 present
        exact writable.get? numbered
  | list items =>
      rw [step_list]
      exact position.map fun found _ => partWritable_getElem? (writable_list_iff.1 writable) found
  | tuple items =>
      rw [step_tuple]
      exact position.map fun found _ => partWritable_getElem? (writable_tuple_iff.1 writable) found
  | _ => exact .ok nofun

theorem follow_cons
    (value : Value)
    (segment : List Char)
    (path : List (List Char)) :
    value.follow (segment :: path) =
      value.step segment >>= fun found =>
        match found with
        | none => .ok none
        | some part => part.follow path := by
  rw [follow]
  rcases value.step segment with fault | _ | part <;> rfl

theorem yields_follow
    {value : Value}
    (writable : Writable value)
    (path : List (List Char)) :
    Yields PartWritable (Fault.TooLong (HasOverlong · path)) (value.follow path) := by
  induction path generalizing value with
  | nil =>
      refine .ok fun part same => ?_
      cases same
      exact writable
  | cons segment path inductionHypothesis =>
      have inFirst : ∀ count, HasOverlong count [segment] → HasOverlong count (segment :: path) :=
        fun count ⟨_, member, overlong⟩ =>
          ⟨segment, List.mem_cons_self, by rwa [List.mem_singleton.1 member] at overlong⟩
      have inRest : ∀ count, HasOverlong count path → HasOverlong count (segment :: path) :=
        fun count ⟨later, member, overlong⟩ => ⟨later, List.mem_cons_of_mem _ member, overlong⟩
      rw [follow_cons]
      refine ((yields_step writable segment).mono_raises (Fault.TooLong.mono inFirst)).bind ?_
      intro found parts
      cases found with
      | none => exact .ok nofun
      | some part =>
          exact (inductionHypothesis (parts part rfl)).mono_raises (Fault.TooLong.mono inRest)

/-- A value that can be written has a text to be put in place of a reference. -/
theorem exists_spliced
    {value : Value}
    (writable : Writable value) :
    ∃ content, value.spliced = .ok content := by
  cases value with
  | list items => exact exists_write writable compact
  | tuple items => exact exists_write writable compact
  | object fields => exact exists_write writable compact
  | float number =>
      rw [spliced]
      split
      · split <;> exact ⟨_, rfl⟩
      · exact ⟨_, rfl⟩
  | _ => exact ⟨_, rfl⟩

end Value

namespace Template

variable {memory : Memory}

theorem yields_lookup
    (writable : memory.Writable)
    (reference : Reference) :
    Yields Value.PartWritable (Fault.TooLong (HasOverlong · reference.path))
      (lookup memory reference) := by
  unfold lookup
  split
  · exact .ok nofun
  next payload recorded => exact Value.yields_follow (writable.output? recorded) reference.path

theorem resolvePiece_reference
    (memory : Memory)
    (reference : Reference) :
    resolvePiece memory (.reference reference) =
      lookup memory reference >>= fun found =>
        match found with
        | none => .ok reference.source
        | some value => value.spliced.map String.toList := by
  rw [resolvePiece]
  rcases lookup memory reference with fault | _ | value <;> rfl

theorem resolvePieces_cons
    (memory : Memory)
    (piece : Piece)
    (cut : List Piece) :
    resolvePieces memory (piece :: cut) =
      resolvePiece memory piece >>= fun first =>
        (resolvePieces memory cut).map (first ++ ·) := by
  rw [resolvePieces]
  rcases resolvePiece memory piece with fault | first
  · rfl
  · rcases resolvePieces memory cut with fault | others <;> rfl

/-- A number of too many digits stands in a reference among pieces. -/
def OverlongAmong (cut : List Piece) (count : Nat) : Prop :=
  ∃ reference, Piece.reference reference ∈ cut ∧ HasOverlong count reference.path

theorem yields_resolvePiece
    (writable : memory.Writable)
    (piece : Piece) :
    Yields (fun _ => True) (Fault.TooLong (OverlongAmong [piece])) (resolvePiece memory piece) := by
  cases piece with
  | literal character => exact .ok trivial
  | reference reference =>
      have here : ∀ count, HasOverlong count reference.path →
          OverlongAmong [.reference reference] count :=
        fun count overlong => ⟨reference, List.mem_cons_self, overlong⟩
      rw [resolvePiece_reference]
      refine ((yields_lookup writable reference).mono_raises (Fault.TooLong.mono here)).bind ?_
      intro found values
      cases found with
      | none => exact .ok trivial
      | some value =>
          obtain ⟨content, spliced⟩ := Value.exists_spliced (values value rfl)
          simp only [spliced]
          exact .ok trivial

theorem yields_resolvePieces
    (writable : memory.Writable)
    (cut : List Piece) :
    Yields (fun _ => True) (Fault.TooLong (OverlongAmong cut)) (resolvePieces memory cut) := by
  induction cut with
  | nil => exact .ok trivial
  | cons piece cut inductionHypothesis =>
      have inFirst : ∀ count, OverlongAmong [piece] count → OverlongAmong (piece :: cut) count :=
        fun count ⟨reference, member, overlong⟩ =>
          ⟨reference, List.mem_singleton.1 member ▸ List.mem_cons_self, overlong⟩
      have inRest : ∀ count, OverlongAmong cut count → OverlongAmong (piece :: cut) count :=
        fun count ⟨reference, member, overlong⟩ =>
          ⟨reference, List.mem_cons_of_mem _ member, overlong⟩
      rw [resolvePieces_cons]
      have first := (yields_resolvePiece writable piece).mono_raises (Fault.TooLong.mono inFirst)
      have others := inductionHypothesis.mono_raises (Fault.TooLong.mono inRest)
      exact first.bind fun _ _ => others.map fun _ _ => trivial

/-- A reference among pieces is one of those that are located. -/
theorem exists_mem_locate
    {cut : List Piece}
    {reference : Reference}
    (member : .reference reference ∈ cut)
    (position : Nat) :
    ∃ occurrence ∈ locate position cut, occurrence.reference = reference := by
  induction cut generalizing position with
  | nil => cases member
  | cons piece cut inductionHypothesis =>
      cases piece with
      | literal character =>
          rcases List.mem_cons.1 member with same | later
          · cases same
          · exact inductionHypothesis later _
      | reference first =>
          rcases List.mem_cons.1 member with same | later
          · cases same
            exact ⟨_, List.mem_cons_self, rfl⟩
          · obtain ⟨occurrence, found, same⟩ := inductionHypothesis later _
            exact ⟨occurrence, List.mem_cons_of_mem _ found, same⟩

theorem yields_resolveText
    (writable : memory.Writable)
    (content : String) :
    Yields (fun _ => True) (Fault.TooLong (MentionsOverlong · content))
      (resolveText memory content) := by
  have located : ∀ count, OverlongAmong (pieces content.toList) count →
      MentionsOverlong count content := by
    rintro count ⟨reference, member, overlong⟩
    obtain ⟨occurrence, found, rfl⟩ := exists_mem_locate member 0
    exact ⟨occurrence, found, overlong⟩
  have resolved := (yields_resolvePieces writable (pieces content.toList)).mono_raises
    (Fault.TooLong.mono located)
  exact resolved.map fun _ _ => trivial

/-- A text that is one reference fails as looking the reference up does. -/
theorem resolve_source_of_error
    {reference : Reference}
    (proper : reference.IsProper)
    {fault : Fault}
    (fails : lookup memory reference = .error fault) :
    resolve memory (.text (String.ofList reference.source)) = .error fault := by
  rw [resolve, resolveText, String.toList_ofList, pieces_source proper, resolvePieces_cons,
    resolvePiece_reference, fails]
  rfl

theorem resolveItems_cons
    (memory : Memory)
    (item : Value)
    (items : List Value) :
    resolveItems memory (item :: items) =
      resolve memory item >>= fun resolved =>
        (resolveItems memory items).map (resolved :: ·) := by
  rw [resolveItems]
  rcases resolve memory item with fault | resolved
  · rfl
  · rcases resolveItems memory items with fault | others <;> rfl

theorem resolveFields_cons
    (memory : Memory)
    (field : Key × Value)
    (fields : List (Key × Value)) :
    resolveFields memory (field :: fields) =
      resolve memory field.2 >>= fun resolved =>
        (resolveFields memory fields).map ((field.1, resolved) :: ·) := by
  rw [resolveFields]
  rcases resolve memory field.2 with fault | resolved
  · rfl
  · rcases resolveFields memory fields with fault | others <;> rfl

mutual

/-- Resolving a configuration gives one that can be written, or fails for a number of too many
digits in one of its texts. -/
theorem yields_resolve
    (writable : memory.Writable) :
    (value : Value) → Writable value →
      Yields Writable (Fault.TooLong (OverlongIn value)) (resolve memory value)
  | .text content, _ => by
      have here : ∀ count, MentionsOverlong count content → OverlongIn (.text content) count :=
        fun count overlong => ⟨content, .text, overlong⟩
      have resolved := (yields_resolveText writable content).mono_raises (Fault.TooLong.mono here)
      exact resolved.map fun text _ => writable_text text
  | .list items, given => by
      have inItem : ∀ count, (∃ item ∈ items, OverlongIn item count) →
          OverlongIn (.list items) count :=
        fun count ⟨_, member, content, held, overlong⟩ => ⟨content, .list member held, overlong⟩
      have resolved := (yields_resolveItems writable items (writable_list_iff.1 given)).mono_raises
        (Fault.TooLong.mono inItem)
      exact resolved.map fun _ each => writable_list_iff.2 each
  | .tuple items, given => by
      have inItem : ∀ count, (∃ item ∈ items, OverlongIn item count) →
          OverlongIn (.tuple items) count :=
        fun count ⟨_, member, content, held, overlong⟩ => ⟨content, .tuple member held, overlong⟩
      have resolved := (yields_resolveItems writable items (writable_tuple_iff.1 given)).mono_raises
        (Fault.TooLong.mono inItem)
      exact resolved.map fun _ each => writable_tuple_iff.2 each
  | .object fields, given => by
      have resolved := yields_resolveFields writable fields given
      exact resolved.map fun _ each => each
  | .null, given | .bool _, given | .int _, given | .float _, given | .predicate _, given =>
      .ok given

theorem yields_resolveItems
    (writable : memory.Writable) :
    (items : List Value) → (∀ item ∈ items, Writable item) →
      Yields (fun resolved => ∀ item ∈ resolved, Writable item)
        (Fault.TooLong fun count => ∃ item ∈ items, OverlongIn item count)
        (resolveItems memory items)
  | [], _ => .ok nofun
  | item :: items, given => by
      have inFirst : ∀ count, OverlongIn item count →
          ∃ among ∈ item :: items, OverlongIn among count :=
        fun count overlong => ⟨item, List.mem_cons_self, overlong⟩
      have inRest : ∀ count, (∃ later ∈ items, OverlongIn later count) →
          ∃ among ∈ item :: items, OverlongIn among count :=
        fun count ⟨later, member, overlong⟩ => ⟨later, List.mem_cons_of_mem _ member, overlong⟩
      obtain ⟨itemGiven, itemsGiven⟩ := List.forall_mem_cons.1 given
      have first := (yields_resolve writable item itemGiven).mono_raises
        (Fault.TooLong.mono inFirst)
      have others := (yields_resolveItems writable items itemsGiven).mono_raises
        (Fault.TooLong.mono inRest)
      rw [resolveItems_cons]
      exact first.bind fun resolved holds => others.map fun _ each =>
        List.forall_mem_cons.2 ⟨holds, each⟩

theorem yields_resolveFields
    (writable : memory.Writable) :
    (fields : List (Key × Value)) → Writable (.object fields) →
      Yields (fun resolved => Writable (.object resolved))
        (Fault.TooLong (OverlongIn (.object fields))) (resolveFields memory fields)
  | [], _ => .ok rfl
  | (key, value) :: fields, given => by
      have inFirst : ∀ count, OverlongIn value count →
          OverlongIn (.object ((key, value) :: fields)) count :=
        fun count ⟨content, held, overlong⟩ =>
          ⟨content, .object List.mem_cons_self held, overlong⟩
      have inRest : ∀ count, OverlongIn (.object fields) count →
          OverlongIn (.object ((key, value) :: fields)) count := by
        rintro count ⟨content, held, overlong⟩
        cases held with
        | object member held =>
            exact ⟨content, .object (List.mem_cons_of_mem _ member) held, overlong⟩
      obtain ⟨⟨named, valueGiven⟩, fieldsGiven⟩ :=
        List.forall_mem_cons.1 (writable_object_iff.1 given)
      have first := (yields_resolve writable value valueGiven).mono_raises
        (Fault.TooLong.mono inFirst)
      have others := (yields_resolveFields writable fields
        (writable_object_iff.2 fieldsGiven)).mono_raises (Fault.TooLong.mono inRest)
      rw [resolveFields_cons]
      exact first.bind fun resolved holds => others.map fun _ each =>
        writable_object_iff.2 (List.forall_mem_cons.2 ⟨⟨named, holds⟩, writable_object_iff.1 each⟩)

end

end Template
end RequestFlow
