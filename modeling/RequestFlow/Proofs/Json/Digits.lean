import RequestFlow.Json.Embedded

/-!
# Numbers that are too long to read

A text that is JSON is read, unless it has a whole number with more digits than the conversion
limit.
-/

namespace RequestFlow
namespace Json

open Numeral

variable {input : List Char} {fault : ReadFault}

/-- A fault of reading is founded: if it says that a number is too long, it is. -/
def ReadFault.IsFounded : ReadFault → Prop
  | .malformed => True
  | .tooManyDigits count => digitLimit < count

@[simp] theorem prepend_eq_error_iff
    {characters : List Char}
    {result : Except ReadFault (List Char × List Char)} :
    prepend characters result = .error fault ↔ result = .error fault := by
  cases result <;> simp [prepend]

/-- A text between quotes has no numbers. -/
theorem eq_malformed_of_readText
    {pending : Option Nat}
    (failed : readText pending input = .error fault) :
    fault = .malformed := by
  fun_induction readText pending input <;> simp_all

theorem isFounded_readNumber
    {negative : Bool}
    (failed : readNumber negative input = .error fault) :
    fault.IsFounded := by
  simp only [readNumber] at failed
  split at failed
  · cases failed
    trivial
  · split at failed
    · split at failed
      next overlong =>
        cases failed
        exact overlong
      · cases failed
    · cases failed

theorem isFounded_readScalar
    (failed : readScalar input = .error fault) :
    fault.IsFounded := by
  unfold readScalar at failed
  split at failed
  · cases failed
  · split at failed <;> exact isFounded_readNumber failed

/-- Faults of reading with a bound on the nesting of calls are founded. -/
structure ReadsFounded (fuel : Nat) : Prop where
  /-- Faults of reading a value are. -/
  value : ∀ input fault, readValue fuel input = .error fault → fault.IsFounded
  /-- Faults of reading the items of a list are. -/
  items : ∀ input fault, readItems fuel input = .error fault → fault.IsFounded
  /-- Faults of reading the fields of an object are. -/
  fields : ∀ input fault, readFields fuel input = .error fault → fault.IsFounded

namespace ReadsFounded

variable {fuel : Nat} (within : ReadsFounded fuel)

include within

theorem value_succ
    (failed : readValue (fuel + 1) input = .error fault) :
    fault.IsFounded := by
  unfold readValue at failed
  split at failed
  · contradiction
  · split at failed
    · cases failed
    next read =>
      cases failed
      rw [eq_malformed_of_readText read]
      trivial
  next less body same =>
    obtain rfl : fuel = less := Nat.succ.inj same
    split at failed
    · cases failed
    · split at failed
      · cases failed
      next read =>
        cases failed
        exact within.items _ _ read
  next less body same =>
    obtain rfl : fuel = less := Nat.succ.inj same
    split at failed
    · cases failed
    · split at failed
      · cases failed
      next read =>
        cases failed
        exact within.fields _ _ read
  · exact isFounded_readScalar failed

theorem items_succ
    (failed : readItems (fuel + 1) input = .error fault) :
    fault.IsFounded := by
  unfold readItems at failed
  split at failed
  next read =>
    cases failed
    exact within.value _ _ read
  · split at failed
    · cases failed
    · split at failed
      · cases failed
      next read =>
        cases failed
        exact within.items _ _ read
    · cases failed
      trivial

theorem fields_succ
    (failed : readFields (fuel + 1) input = .error fault) :
    fault.IsFounded := by
  unfold readFields at failed
  split at failed
  · contradiction
  next less body same =>
    obtain rfl : fuel = less := Nat.succ.inj same
    split at failed
    next read =>
      cases failed
      rw [eq_malformed_of_readText read]
      trivial
    · split at failed
      · split at failed
        next read =>
          cases failed
          exact within.value _ _ read
        · split at failed
          · cases failed
          · split at failed
            · cases failed
            next read =>
              cases failed
              exact within.fields _ _ read
          · cases failed
            trivial
      · cases failed
        trivial
  · cases failed
    trivial

end ReadsFounded

theorem readsFounded (fuel : Nat) : ReadsFounded fuel := by
  induction fuel with
  | zero =>
      constructor <;> intro input fault failed
      · cases failed
        trivial
      · cases failed
        trivial
      · cases failed
        trivial
  | succ fuel inductionHypothesis =>
      exact ⟨fun _ _ => inductionHypothesis.value_succ, fun _ _ => inductionHypothesis.items_succ,
        fun _ _ => inductionHypothesis.fields_succ⟩

theorem isFounded_of_read
    {content : String}
    (failed : read content = .error fault) :
    fault.IsFounded := by
  unfold read readChars at failed
  split at failed
  next read =>
    cases failed
    exact (readsFounded _).value _ _ read
  · split at failed
    · cases failed
    · cases failed
      trivial

/-- A text is refused only for a number that is too long. -/
theorem embedded?_eq_error_iff
    {content : String}
    {fault : Fault} :
    embedded? content = .error fault ↔
      ∃ count, digitLimit < count ∧ read content = .error (.tooManyDigits count) ∧
        fault = .tooManyDigits count := by
  unfold embedded?
  split
  next reads => simp [reads]
  next malformed => simp [malformed]
  next count overlong =>
    constructor
    · rintro ⟨⟩
      exact ⟨count, isFounded_of_read overlong, overlong, rfl⟩
    · rintro ⟨other, -, same, rfl⟩
      rw [overlong] at same
      cases same
      rfl

end Json
end RequestFlow
