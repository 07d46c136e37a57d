import RequestFlow.Proofs.Template.Overlong

/-!
# What a reference reaches

A segment of a path leads from an object to its field of that name, and from a list to the item
whose position it writes in decimal. A reference reaches what its path leads to from the payload
that is recorded for its node and its key. If all payloads are JSON, looking a reference up finds
what it reaches, and finds nothing if it reaches nothing.
-/

namespace RequestFlow

/-- The values of JSON: whole numbers stay within the conversion limit, and the keys of an object
are texts that differ. -/
inductive Json.IsPayload : Value → Prop
  | null : IsPayload .null
  | bool (flag : Bool) : IsPayload (.bool flag)
  | int (number : Int) :
      (Nat.toDigits 10 number.natAbs).length ≤ Numeral.digitLimit → IsPayload (.int number)
  | float (number : Double) : IsPayload (.float number)
  | text (content : String) : IsPayload (.text content)
  | list (items : List Value) : (∀ item ∈ items, IsPayload item) → IsPayload (.list items)
  | record (fields : List (String × Value)) :
      (fields.map (·.1)).Nodup → (∀ field ∈ fields, IsPayload field.2) → IsPayload (.record fields)

theorem Json.IsPayload.writable
    {value : Value}
    (payload : IsPayload value) :
    Writable value := by
  induction payload with
  | list items _ inductionHypothesis => exact writable_list_iff.2 inductionHypothesis
  | record fields _ _ inductionHypothesis => exact writable_record_iff.2 inductionHypothesis
  | _ => rfl

namespace Value

/-! ## One segment -/

/-- A segment of digits that write a position in decimal. -/
structure IsDecimal
    (segment : List Char)
    (position : Nat) : Prop where
  /-- There is a digit. -/
  ne_nil : segment ≠ []
  /-- There are digits only. -/
  digits : ∀ digit ∈ segment, digit.isDigit = true
  /-- They denote the position. -/
  value : Numeral.digitsValue segment = position

/-- A segment leads from an object to its field of that name, and from a list to an item. -/
inductive Leads (segment : List Char) : Value → Value → Prop
  | field {fields : Fields} {part : Value} :
      (.text (String.ofList segment), part) ∈ fields →
      Leads segment (.object fields) part
  | item {items : List Value} {position : Nat} {part : Value} :
      IsDecimal segment position →
      items[position]? = some part →
      Leads segment (.list items) part

theorem leads_object_iff
    {segment : List Char}
    {fields : Fields}
    {part : Value} :
    Leads segment (.object fields) part ↔ (.text (String.ofList segment), part) ∈ fields := by
  constructor
  · intro leads
    cases leads with
    | field member => exact member
  · exact .field

theorem leads_list_iff
    {segment : List Char}
    {items : List Value}
    {part : Value} :
    Leads segment (.list items) part ↔
      ∃ position, IsDecimal segment position ∧ items[position]? = some part := by
  constructor
  · intro leads
    cases leads with
    | item written present => exact ⟨_, written, present⟩
  · rintro ⟨position, written, present⟩
    exact .item written present

/-- A segment that is not a number of too many digits. -/
def IsShort (segment : List Char) : Prop :=
  segment.all Char.isDigit = true → segment.length ≤ Numeral.digitLimit

/-- A short segment is read as the position that it writes. -/
theorem exists_index?
    {segment : List Char}
    (short : IsShort segment) :
    ∃ found, index? segment = .ok found ∧
      ∀ position, found = some position ↔ IsDecimal segment position := by
  unfold index?
  split
  next unwritten =>
    refine ⟨none, rfl, fun position => ⟨nofun, ?_⟩⟩
    intro decimal
    have all : segment.all Char.isDigit = true := List.all_eq_true.2 decimal.digits
    simp [all, decimal.ne_nil] at unwritten
  next written =>
    simp only [Bool.or_eq_true, Bool.not_eq_true', not_or, Bool.not_eq_false,
      List.isEmpty_iff] at written
    rw [if_neg (Nat.not_lt.2 (short written.2))]
    refine ⟨_, rfl, fun position => ⟨?_, ?_⟩⟩
    · intro same
      exact ⟨written.1, List.all_eq_true.1 written.2, Option.some.inj same⟩
    · intro decimal
      rw [decimal.value]

/-- In an object whose keys are texts that differ, the field of a name is found. -/
theorem get?_text_eq_some_iff
    {fields : List (String × Value)}
    (distinct : (fields.map (·.1)).Nodup)
    (name : String)
    (part : Value) :
    Assoc.get? (.text name) (Fields.named fields) = some part ↔
      (.text name, part) ∈ Fields.named fields := by
  unfold Fields.named
  induction fields with
  | nil => simp
  | cons field fields inductionHypothesis =>
      obtain ⟨first, value⟩ := field
      obtain ⟨fresh, distinct⟩ := List.nodup_cons.1 distinct
      rw [List.map_cons, Assoc.get?, Key.text_beq_text, List.mem_cons]
      by_cases same : first = name
      · subst same
        have later : (.text first, part) ∉ fields.map fun field => (Key.text field.1, field.2) := by
          intro member
          obtain ⟨other, listed, same⟩ := List.mem_map.1 member
          have member : other.1 ∈ fields.map (·.1) := List.mem_map_of_mem listed
          rw [Key.text.inj (congrArg Prod.fst same)] at member
          exact fresh member
        simp [later, eq_comm]
      · simp [same, Ne.symm same, inductionHypothesis distinct]

/-- In an object whose keys are texts, nothing is found under a number. -/
theorem get?_int_eq_none
    (position : Int)
    (fields : List (String × Value)) :
    Assoc.get? (.int position) (Fields.named fields) = none := by
  induction fields with
  | nil => rfl
  | cons field fields inductionHypothesis => exact inductionHypothesis

section Step

variable {segment : List Char} (short : IsShort segment)

include short

theorem exists_step_list
    (items : List Value) :
    ∃ found, (Value.list items).step segment = .ok found ∧
      ∀ part, found = some part ↔ Leads segment (.list items) part := by
  obtain ⟨position, read, decimal⟩ := exists_index? short
  rw [step_list, read]
  refine ⟨_, rfl, ?_⟩
  intro part
  rw [Option.bind_eq_some_iff, leads_list_iff]
  simp only [decimal]

/-- From an object whose keys are texts a segment leads to the field of that name. -/
theorem step_record
    (fields : List (String × Value)) :
    (Value.record fields).step segment =
      .ok (Assoc.get? (.text (String.ofList segment)) (Fields.named fields)) := by
  obtain ⟨position, read, -⟩ := exists_index? short
  rw [record, step_object, read]
  cases Assoc.get? (.text (String.ofList segment)) (Fields.named fields) with
  | some part => rfl
  | none =>
      cases position with
      | none => rfl
      | some position => exact congrArg Except.ok (get?_int_eq_none position fields)

theorem exists_step_record
    {fields : List (String × Value)}
    (distinct : (fields.map (·.1)).Nodup) :
    ∃ found, (Value.record fields).step segment = .ok found ∧
      ∀ part, found = some part ↔ Leads segment (.record fields) part := by
  refine ⟨_, step_record short fields, fun part => ?_⟩
  exact (get?_text_eq_some_iff distinct (String.ofList segment) part).trans leads_object_iff.symm

/-- A step finds what the segment leads to. -/
theorem exists_step
    {value : Value}
    (payload : Json.IsPayload value) :
    ∃ found, value.step segment = .ok found ∧
      ∀ part, found = some part ↔ value.Leads segment part := by
  cases payload with
  | list items each => exact exists_step_list short items
  | record fields distinct each => exact exists_step_record short distinct
  | _ =>
      refine ⟨none, rfl, fun part => ⟨?_, ?_⟩⟩
      · intro absent
        cases absent
      · intro leads
        cases leads

end Step

/-! ## A path -/

/-- A path leads from a value to a part of it, one segment after another. -/
inductive Reaches : List (List Char) → Value → Value → Prop
  | here {value : Value} : Reaches [] value value
  | onward {segment : List Char} {path : List (List Char)} {value part found : Value} :
      Leads segment value part →
      Reaches path part found →
      Reaches (segment :: path) value found

theorem Leads.isPayload
    {segment : List Char}
    {value part : Value}
    (leads : Leads segment value part)
    (payload : Json.IsPayload value) :
    Json.IsPayload part := by
  cases payload with
  | list items each =>
      obtain ⟨position, -, present⟩ := leads_list_iff.1 leads
      exact each part (List.mem_of_getElem? present)
  | record fields distinct each =>
      obtain ⟨field, listed, same⟩ := List.mem_map.1 (leads_object_iff.1 leads)
      obtain ⟨-, rfl⟩ := Prod.mk.inj same
      exact each field listed
  | _ => cases leads

theorem Reaches.isPayload
    {path : List (List Char)}
    {value part : Value}
    (reaches : Reaches path value part)
    (payload : Json.IsPayload value) :
    Json.IsPayload part := by
  induction reaches with
  | here => exact payload
  | onward leads _ inductionHypothesis => exact inductionHypothesis (leads.isPayload payload)

/-- Following a path finds what it leads to. -/
theorem exists_follow
    {path : List (List Char)}
    (short : ∀ segment ∈ path, IsShort segment)
    {value : Value}
    (payload : Json.IsPayload value) :
    ∃ found, value.follow path = .ok found ∧
      ∀ part, found = some part ↔ Reaches path value part := by
  induction path generalizing value with
  | nil =>
      refine ⟨some value, rfl, fun part => ⟨?_, ?_⟩⟩
      · rintro ⟨⟩
        exact .here
      · rintro ⟨⟩
        rfl
  | cons segment path inductionHypothesis =>
      obtain ⟨shortFirst, shortRest⟩ := List.forall_mem_cons.1 short
      obtain ⟨first, stepped, leads⟩ := exists_step shortFirst payload
      rw [follow_cons, stepped]
      cases first with
      | none =>
          refine ⟨none, rfl, fun part => ⟨nofun, ?_⟩⟩
          intro reached
          cases reached with
          | onward stepTaken further => cases (leads _).2 stepTaken
      | some next =>
          have stepTaken : Leads segment value next := (leads next).1 rfl
          obtain ⟨found, followed, reaches⟩ :=
            inductionHypothesis shortRest (stepTaken.isPayload payload)
          refine ⟨found, followed, fun part => (reaches part).trans ⟨.onward stepTaken, ?_⟩⟩
          intro reached
          cases reached with
          | onward otherStep further =>
              obtain rfl := Option.some.inj ((leads _).2 otherStep)
              exact further

end Value

namespace Template

/-- All payloads that are recorded are JSON. -/
def RecordsJson (memory : Memory) : Prop :=
  ∀ node key payload, memory.output? node key = some payload → Json.IsPayload payload

/-- The path of a reference leads to the value from the payload for its node and its key. -/
def Reference.Reaches
    (reference : Reference)
    (memory : Memory)
    (value : Value) : Prop :=
  ∃ payload,
    memory.output? (String.ofList reference.node) (.text (String.ofList reference.key)) =
      some payload ∧
    payload.Reaches reference.path value

theorem Reference.Reaches.isPayload
    {reference : Reference}
    {memory : Memory}
    {value : Value}
    (reaches : reference.Reaches memory value)
    (json : RecordsJson memory) :
    Json.IsPayload value := by
  obtain ⟨payload, recorded, leads⟩ := reaches
  exact leads.isPayload (json _ _ payload recorded)

/-- Looking a reference up finds what it reaches. -/
theorem exists_lookup
    {memory : Memory}
    (json : RecordsJson memory)
    {reference : Reference}
    (short : ∀ segment ∈ reference.path, Value.IsShort segment) :
    ∃ found, lookup memory reference = .ok found ∧
      ∀ value, found = some value ↔ reference.Reaches memory value := by
  unfold lookup
  split
  next unrecorded =>
    refine ⟨none, rfl, fun value => ⟨nofun, ?_⟩⟩
    rintro ⟨payload, recorded, -⟩
    cases unrecorded.symm.trans recorded
  next payload recorded =>
    obtain ⟨found, followed, reaches⟩ := Value.exists_follow short (json _ _ payload recorded)
    refine ⟨found, followed, fun value => (reaches value).trans ⟨?_, ?_⟩⟩
    · intro leads
      exact ⟨payload, recorded, leads⟩
    · rintro ⟨other, otherRecorded, leads⟩
      obtain rfl := Option.some.inj (recorded.symm.trans otherRecorded)
      exact leads

end Template
end RequestFlow
