import RequestFlow.Proofs.Assoc
import RequestFlow.Proofs.Json.RoundTrip

/-!
# Values that can be written as JSON

A value is written as JSON unless some object inside it has a tuple for a key. Whatever is read from
a JSON text can be written again, and so can what is taken out of such values and put together from
them.
-/

namespace RequestFlow
namespace Json

variable {value : Value} {items : List Value} {fields further : Fields} {key : Key} {name : String}

/-- No object inside a value has a tuple for a key. -/
def Writable (value : Value) : Prop :=
  hasTupleKey value = false

/-- A key that is written as a text: any key but a tuple. -/
def IsName (key : Key) : Prop :=
  ∀ parts, key ≠ .tuple parts

theorem isName_null : IsName .null :=
  nofun

theorem isName_text (content : String) : IsName (.text content) :=
  nofun

theorem writable_null : Writable .null := rfl

theorem writable_int (number : Int) : Writable (.int number) := rfl

theorem writable_text (content : String) : Writable (.text content) := rfl

theorem writable_list_nil : Writable (.list []) := rfl

theorem writable_object_nil : Writable (.object []) := rfl

theorem anyTupleKey_eq_false_iff :
    anyTupleKey items = false ↔ ∀ item ∈ items, Writable item := by
  induction items with
  | nil => simp [anyTupleKey]
  | cons item items inductionHypothesis =>
      simp [anyTupleKey, Writable, inductionHypothesis]

theorem writable_list_iff :
    Writable (.list items) ↔ ∀ item ∈ items, Writable item :=
  anyTupleKey_eq_false_iff

theorem writable_tuple_iff :
    Writable (.tuple items) ↔ ∀ item ∈ items, Writable item :=
  anyTupleKey_eq_false_iff

theorem writable_object_iff :
    Writable (.object fields) ↔ ∀ field ∈ fields, IsName field.1 ∧ Writable field.2 := by
  change fieldsTupleKey fields = false ↔ _
  induction fields with
  | nil => simp [fieldsTupleKey]
  | cons field fields inductionHypothesis =>
      obtain ⟨key, value⟩ := field
      cases key <;> simp [fieldsTupleKey, Writable, IsName, inductionHypothesis]

theorem writable_record_iff
    {fields : List (String × Value)} :
    Writable (.record fields) ↔ ∀ field ∈ fields, Writable field.2 := by
  rw [Value.record, Fields.named, writable_object_iff, List.forall_mem_map]
  simp only [isName_text, true_and]

mutual

/-- A key as a value is no object and has none inside. -/
theorem writable_toValue : (key : Key) → Writable key.toValue
  | .tuple parts => writable_tuple_iff.2 (writable_toValues parts)
  | .null | .bool _ | .int _ | .float _ | .text _ => rfl

theorem writable_toValues : (parts : List Key) → ∀ item ∈ Key.toValues parts, Writable item
  | [] => nofun
  | part :: parts => List.forall_mem_cons.2 ⟨writable_toValue part, writable_toValues parts⟩

end

/-- A value that can be written is. -/
theorem exists_write
    (writable : Writable value)
    (style : Style) :
    ∃ content, write style value = .ok content := by
  unfold Writable at writable
  exact ⟨String.ofList (render style value), by rw [write, writable]; rfl⟩

namespace Writable

/-- A field that is there can be written. -/
theorem get?
    {found : Value}
    (writable : Writable (.object fields))
    (present : Assoc.get? key fields = some found) :
    Writable found :=
  Assoc.of_get? Writable (fun field member => (writable_object_iff.1 writable field member).2)
    present

/-- A field can be written, and null without one. -/
theorem get
    (writable : Writable (.object fields))
    (name : String) :
    Writable (Fields.get name fields) := by
  unfold Fields.get
  cases present : Assoc.get? (.text name) fields with
  | none => exact writable_null
  | some found => exact writable.get? present

theorem nonNull?
    {part : Value}
    (writable : Writable value)
    (present : value.nonNull? = some part) :
    Writable part := by
  cases value <;> cases present
  all_goals exact writable

theorem orElse
    {otherwise : Value}
    (writable : Writable value)
    (other : Writable otherwise) :
    Writable (value.orElse otherwise) := by
  unfold Value.orElse
  split
  · exact writable
  · exact other

theorem put
    (writable : Writable (.object fields))
    (named : IsName key)
    (given : Writable value) :
    Writable (.object (Assoc.put key value fields)) := by
  rw [writable_object_iff] at writable ⊢
  intro field member
  -- The value may stand under a key that was listed before and counts as the given one.
  rcases Assoc.mem_put member with ⟨same, isKey | listed⟩ | before
  · rw [same, isKey]
    exact ⟨named, given⟩
  · obtain ⟨present, found, isKey⟩ := List.mem_map.1 listed
    rw [same, ← isKey]
    exact ⟨(writable present found).1, given⟩
  · exact writable field before

theorem merge
    (writable : Writable (.object fields))
    (given : Writable (.object further)) :
    Writable (.object (Assoc.merge fields further)) := by
  unfold Assoc.merge
  induction further generalizing fields with
  | nil => exact writable
  | cons field further inductionHypothesis =>
      have each := writable_object_iff.1 given
      have first := each field List.mem_cons_self
      refine inductionHypothesis (writable.put first.1 first.2) (writable_object_iff.2 ?_)
      exact fun other member => each other (List.mem_cons_of_mem _ member)

end Writable

/-! ## What is read -/

/-- A number without its sign is no object. -/
theorem writable_readNumber
    {negative : Bool}
    {input rest : List Char}
    (reads : readNumber negative input = .ok (value, rest)) :
    Writable value := by
  simp only [readNumber] at reads
  split at reads
  · cases reads
  · split at reads
    · split at reads
      · cases reads
      · cases reads
        rfl
    · cases reads
      rfl

/-- Neither a word nor a number is an object. -/
theorem writable_readScalar
    {input rest : List Char}
    (reads : readScalar input = .ok (value, rest)) :
    Writable value := by
  unfold readScalar at reads
  split at reads
  next found matched =>
    cases reads
    obtain ⟨word, member, dropped⟩ := List.exists_of_findSome?_eq_some matched
    obtain ⟨after, -, same⟩ := Option.map_eq_some_iff.1 dropped
    cases same
    have scalars : ∀ entry ∈ words, Writable entry.2 := by
      simp [words, Writable, hasTupleKey]
    exact scalars word member
  · split at reads <;> exact writable_readNumber reads

/-- What is read with a bound on the nesting of calls can be written. -/
structure ReadsWritable (fuel : Nat) : Prop where
  /-- Every value that is read can be written. -/
  value : ∀ input value rest, readValue fuel input = .ok (value, rest) → Writable value
  /-- Every list that is read can be written. -/
  items : ∀ input items rest, readItems fuel input = .ok (items, rest) → Writable (.list items)
  /-- Every object that is read can be written. -/
  fields : ∀ input fields rest, readFields fuel input = .ok (fields, rest) →
    Writable (.object fields)

namespace ReadsWritable

variable {fuel : Nat} {input rest : List Char} (within : ReadsWritable fuel)

include within

theorem value_succ
    (reads : readValue (fuel + 1) input = .ok (value, rest)) :
    Writable value := by
  unfold readValue at reads
  split at reads
  · contradiction
  · split at reads
    · cases reads
      exact writable_text _
    · cases reads
  next less body same =>
    obtain rfl : fuel = less := Nat.succ.inj same
    split at reads
    · cases reads
      rfl
    · split at reads
      next read =>
        cases reads
        exact within.items _ _ _ read
      · cases reads
  next less body same =>
    obtain rfl : fuel = less := Nat.succ.inj same
    split at reads
    · cases reads
      rfl
    · split at reads
      next read =>
        cases reads
        exact Writable.merge rfl (within.fields _ _ _ read)
      · cases reads
  · exact writable_readScalar reads

theorem items_succ
    (reads : readItems (fuel + 1) input = .ok (items, rest)) :
    Writable (.list items) := by
  unfold readItems at reads
  split at reads
  · cases reads
  next item after read =>
    have first := within.value _ _ _ read
    split at reads
    · cases reads
      exact writable_list_iff.2 (by simpa using first)
    · split at reads
      next further =>
        cases reads
        have others := writable_list_iff.1 (within.items _ _ _ further)
        exact writable_list_iff.2 (List.forall_mem_cons.2 ⟨first, others⟩)
      · cases reads
    · cases reads

theorem fields_succ
    (reads : readFields (fuel + 1) input = .ok (fields, rest)) :
    Writable (.object fields) := by
  unfold readFields at reads
  split at reads
  · contradiction
  next less body same =>
    obtain rfl : fuel = less := Nat.succ.inj same
    split at reads
    · cases reads
    · split at reads
      · split at reads
        · cases reads
        next value after read =>
          have first := within.value _ _ _ read
          split at reads
          · cases reads
            exact writable_object_iff.2 (by simpa [isName_text] using first)
          · split at reads
            next further =>
              cases reads
              have others := writable_object_iff.1 (within.fields _ _ _ further)
              exact writable_object_iff.2
                (List.forall_mem_cons.2 ⟨⟨isName_text _, first⟩, others⟩)
            · cases reads
          · cases reads
      · cases reads
  · cases reads

end ReadsWritable

theorem readsWritable (fuel : Nat) : ReadsWritable fuel := by
  induction fuel with
  | zero => exact ⟨nofun, nofun, nofun⟩
  | succ fuel inductionHypothesis =>
      exact ⟨fun _ _ _ => inductionHypothesis.value_succ,
        fun _ _ _ => inductionHypothesis.items_succ, fun _ _ _ => inductionHypothesis.fields_succ⟩

/-- What a text is read as can be written. -/
theorem writable_of_read
    {input : String}
    (reads : read input = .ok value) :
    Writable value := by
  unfold read readChars at reads
  split at reads
  · cases reads
  next found rest matched =>
    split at reads
    · cases reads
      exact (readsWritable _).value _ _ _ matched
    · cases reads

/-- Some text is read as the value. -/
def IsJson (value : Value) : Prop :=
  ∃ input, read input = .ok value

theorem IsJson.writable
    (json : IsJson value) :
    Writable value := by
  obtain ⟨input, reads⟩ := json
  exact writable_of_read reads

/-- A value is read back from how it is written. -/
theorem IsData.isJson
    (data : IsData value) :
    IsJson value :=
  ⟨String.ofList (render compact value), by
    rw [read, String.toList_ofList, readChars_render compact_isBlank data]⟩

/-- What a text inside a configuration is read as can be written. -/
theorem writable_of_embedded?
    {content : String}
    (embedded : embedded? content = .ok (some value)) :
    Writable value := by
  unfold embedded? at embedded
  split at embedded
  next read =>
    cases embedded
    exact writable_of_read read
  · cases embedded
  · cases embedded

end Json
end RequestFlow
