import RequestFlow.Proofs.Flow.Ensures
import RequestFlow.Proofs.Numeral.Overflow
import RequestFlow.Proofs.Numeral.Recognition
import RequestFlow.Proofs.Pattern.Refusal
import RequestFlow.Rules.Basic

/-!
# Rules that give no verdict

Apart from the predicates of the host program, a rule may fail where it reads a number or a pattern.
A number is only read once it has been recognised, and a pattern that is malformed fails the value;
what is left are numbers beyond all doubles, numerals with an information separator beside them, and
patterns that are refused for a reason of their own.
-/

namespace RequestFlow
namespace Rules

variable {support : Support} {rule : Fields} {value bound : Value} {fault : Fault}

/-! ## Numbers -/

/-- A number that has no double: a whole number beyond all doubles, or a numeral with an information
separator beside it. -/
inductive Unconvertible : Value → Fault → Prop
  | tooLarge {number : Int} :
      Double.overflow ≤ number.natAbs →
      Unconvertible (.int number) .integerTooLarge
  | separated {content : String} {character : Char} :
      character ∈ content.toList →
      Numeral.IsSeparator character →
      Unconvertible (.text content) (.notNumber content)

theorem unconvertible_int_iff {number : Int} :
    Unconvertible (.int number) fault ↔
      Double.overflow ≤ number.natAbs ∧ fault = .integerTooLarge := by
  constructor
  · intro unconvertible
    cases unconvertible with
    | tooLarge large => exact ⟨large, rfl⟩
  · rintro ⟨large, rfl⟩
    exact .tooLarge large

theorem unconvertible_text_iff {content : String} :
    Unconvertible (.text content) fault ↔
      (∃ character ∈ content.toList, Numeral.IsSeparator character) ∧
        fault = .notNumber content := by
  constructor
  · intro unconvertible
    cases unconvertible with
    | separated member separates => exact ⟨⟨_, member, separates⟩, rfl⟩
  · rintro ⟨⟨_, member, separates⟩, rfl⟩
    exact .separated member separates

/-- What is recognised as a number converts unless it has no double. -/
theorem toDouble_eq_error_iff
    (numeric : isNumeric value = true) :
    value.toDouble = .error fault ↔ Unconvertible value fault := by
  cases value with
  | int number => rw [unconvertible_int_iff, Value.toDouble, Value.doubleOfInt_eq_error_iff]
  | float number => exact ⟨nofun, nofun⟩
  | text content =>
      rw [unconvertible_text_iff, ← Numeral.readDouble?_eq_none_iff numeric, Value.toDouble]
      cases Numeral.readDouble? content.toList <;> simp [eq_comm]
  | _ => cases numeric

/-- What is recognised as a number converts to one or has none. -/
theorem exists_toDouble_iff
    (numeric : isNumeric value = true) :
    (∃ number, value.toDouble = .ok number) ↔ ∀ fault, ¬Unconvertible value fault := by
  simp only [← toDouble_eq_error_iff numeric]
  cases value.toDouble <;> simp

theorem checkLength_eq_error_iff {compares : Double → Double → Bool} :
    checkLength compares value bound = .error fault ↔
      isNumeric bound = true ∧ Unconvertible bound fault := by
  unfold checkLength
  split
  next numeric =>
    rw [bind_pure_eq_error_iff, toDouble_eq_error_iff numeric]
    simp [numeric]
  next notNumeric => simp [notNumeric, pure, Except.pure]

/-- A number is read before its bound. -/
theorem checkNumber_eq_error_iff {compares : Double → Double → Bool} :
    checkNumber compares value bound = .error fault ↔
      isNumeric value = true ∧ isNumeric bound = true ∧
        (Unconvertible value fault ∨
          (∀ other, ¬Unconvertible value other) ∧ Unconvertible bound fault) := by
  unfold checkNumber
  split
  next numeric =>
    obtain ⟨numericValue, numericBound⟩ := Bool.and_eq_true_iff.1 numeric
    rw [bind_eq_error_iff, toDouble_eq_error_iff numericValue, ← exists_toDouble_iff numericValue]
    simp only [bind_pure_eq_error_iff, toDouble_eq_error_iff numericBound]
    simp [numericValue, numericBound]
  next notNumeric =>
    rw [Bool.and_eq_true_iff] at notNumeric
    exact ⟨nofun, fun breaks => absurd ⟨breaks.1, breaks.2.1⟩ notNumeric⟩

/-! ## Patterns -/

/-- The fault of a rule whose pattern is refused. A malformed pattern is no fault. -/
inductive Refusal : Pattern.Rejection → Fault → Prop
  | codeTooLarge : Refusal .codeTooLarge .codeTooLarge
  | repetitionTooLarge : Refusal .repetitionTooLarge .repetitionTooLarge
  | tooManyDigits {count : Nat} : Refusal (.tooManyDigits count) (.tooManyDigits count)
  | conflictingAlphabets : Refusal .conflictingAlphabets .conflictingAlphabets

theorem checkPattern_eq_error_iff :
    checkPattern support rule value = .error fault ↔
      (rule.get "pattern").isTruthy = true ∧
        ∃ rejection, Pattern.ofText support.names (rule.get "pattern").display = .error rejection ∧
          Refusal rejection fault := by
  unfold checkPattern
  dsimp only
  split
  next present =>
    constructor
    · intro failed
      refine ⟨present, ?_⟩
      split at failed
      · cases failed
      · cases failed
      all_goals
        next refused =>
          cases failed
          exact ⟨_, refused, by constructor⟩
    · rintro ⟨-, rejection, refused, refusal⟩
      rw [refused]
      cases refusal <;> rfl
  next absent => simp [absent]

/-! ## Rules -/

/-- What keeps a rule from giving a verdict on a value: the bound of a length that has no double, a
number or its bound that has none, or a pattern that is refused without being malformed. -/
inductive Breaks
    (support : Support)
    (rule : Fields)
    (value : Value) : Fault → Prop
  | length {fault : Fault} :
      kindOf rule = .text "minLength" ∨ kindOf rule = .text "maxLength" →
      isNumeric (boundOf rule) = true →
      Unconvertible (boundOf rule) fault →
      Breaks support rule value fault
  | number {fault : Fault} :
      kindOf rule = .text "min" ∨ kindOf rule = .text "max" →
      isNumeric value = true →
      isNumeric (boundOf rule) = true →
      Unconvertible value fault →
      Breaks support rule value fault
  | bound {fault : Fault} :
      kindOf rule = .text "min" ∨ kindOf rule = .text "max" →
      isNumeric value = true →
      isNumeric (boundOf rule) = true →
      (∀ other, ¬Unconvertible value other) →
      Unconvertible (boundOf rule) fault →
      Breaks support rule value fault
  | pattern {rejection : Pattern.Rejection} {fault : Fault} :
      kindOf rule = .text "regex" →
      (rule.get "pattern").isTruthy = true →
      Pattern.ofText support.names (rule.get "pattern").display = .error rejection →
      Refusal rejection fault →
      Breaks support rule value fault

variable {request : Request}

/-- The bound of a length is the only number that a rule on lengths reads. -/
theorem applyFields_length_eq_error_iff
    (limits : kindOf rule = .text "minLength" ∨ kindOf rule = .text "maxLength") :
    applyFields support request rule value = .error fault ↔
      isNumeric (boundOf rule) = true ∧ Unconvertible (boundOf rule) fault := by
  unfold applyFields
  rcases limits with kind | kind <;>
    simp only [kind, bind_pure_eq_error_iff, checkLength_eq_error_iff]

theorem applyFields_number_eq_error_iff
    (limits : kindOf rule = .text "min" ∨ kindOf rule = .text "max") :
    applyFields support request rule value = .error fault ↔
      isNumeric value = true ∧ isNumeric (boundOf rule) = true ∧
        (Unconvertible value fault ∨
          (∀ other, ¬Unconvertible value other) ∧ Unconvertible (boundOf rule) fault) := by
  unfold applyFields
  rcases limits with kind | kind <;>
    simp only [kind, bind_pure_eq_error_iff, checkNumber_eq_error_iff]

theorem applyFields_pattern_eq_error_iff
    (kind : kindOf rule = .text "regex") :
    applyFields support request rule value = .error fault ↔
      (rule.get "pattern").isTruthy = true ∧
        ∃ rejection, Pattern.ofText support.names (rule.get "pattern").display = .error rejection ∧
          Refusal rejection fault := by
  unfold applyFields
  simp only [kind, checkPattern_eq_error_iff]

/-- A rule that breaks off is one of these. -/
theorem kindOf_of_applyFields
    (builtin : kindOf rule ≠ .text "custom")
    (failed : applyFields support request rule value = .error fault) :
    (kindOf rule = .text "minLength" ∨ kindOf rule = .text "maxLength") ∨
      (kindOf rule = .text "min" ∨ kindOf rule = .text "max") ∨
        kindOf rule = .text "regex" := by
  unfold applyFields at failed
  dsimp only at failed
  split at failed
  · cases failed
  next kind => exact .inl (.inl kind)
  next kind => exact .inl (.inr kind)
  · cases failed
  · cases failed
  next kind => exact .inr (.inl (.inl kind))
  next kind => exact .inr (.inl (.inr kind))
  next kind => exact .inr (.inr kind)
  next kind => exact absurd kind builtin
  · cases failed

/-- A rule of the program's own fails to give a verdict exactly if a number in it or under it has no
double or its pattern is refused without being malformed, and then the text of the pattern has too
many digits, too great a code or number of rounds, or letters for two alphabets. -/
theorem apply_eq_error_iff
    (builtin : kindOf rule ≠ .text "custom") :
    (∀ fault, apply support request (.object rule) value = .error fault ↔
      Breaks support rule value fault) ∧
    ∀ rejection, Pattern.ofText support.names (rule.get "pattern").display = .error rejection →
      Pattern.Warranted (rule.get "pattern").display.toList rejection := by
  refine ⟨fun fault => ?_, fun rejection => Pattern.warranted_of_ofText⟩
  change applyFields support request rule value = .error fault ↔ _
  constructor
  · intro failed
    rcases kindOf_of_applyFields builtin failed with kind | kind | kind
    · obtain ⟨numeric, unconvertible⟩ := (applyFields_length_eq_error_iff kind).1 failed
      exact .length kind numeric unconvertible
    · obtain ⟨numeric, numericBound, unconvertible | ⟨converts, unconvertible⟩⟩ :=
        (applyFields_number_eq_error_iff kind).1 failed
      · exact .number kind numeric numericBound unconvertible
      · exact .bound kind numeric numericBound converts unconvertible
    · obtain ⟨present, rejection, refused, refusal⟩ :=
        (applyFields_pattern_eq_error_iff kind).1 failed
      exact .pattern kind present refused refusal
  · intro breaks
    cases breaks with
    | length kind numeric unconvertible =>
        exact (applyFields_length_eq_error_iff kind).2 ⟨numeric, unconvertible⟩
    | number kind numeric numericBound unconvertible =>
        exact (applyFields_number_eq_error_iff kind).2
          ⟨numeric, numericBound, .inl unconvertible⟩
    | bound kind numeric numericBound converts unconvertible =>
        exact (applyFields_number_eq_error_iff kind).2
          ⟨numeric, numericBound, .inr ⟨converts, unconvertible⟩⟩
    | pattern kind present refused refusal =>
        exact (applyFields_pattern_eq_error_iff kind).2 ⟨present, _, refused, refusal⟩

namespace Sample

/-- A rule whose bound is a numeral with a separator in front of it. -/
def separated : Fields :=
  [(.text "type", .text "maxLength"), (.text "value", .text "\x1c7")]

/-- A rule that asks for as many rounds as cannot be asked for. -/
def excessive : Fields :=
  [(.text "type", .text "regex"), (.text "pattern", .text "a\x7b4294967295\x7d")]

end Sample

theorem apply_fails_separated :
    kindOf Sample.separated ≠ .text "custom" ∧
      apply {} {} (.object Sample.separated) (.text "word") =
        .error (.notNumber "\x1c7") := by
  have kind : kindOf Sample.separated = .text "maxLength" := rfl
  have builtin : kindOf Sample.separated ≠ .text "custom" := by
    rw [kind]
    simp
  refine ⟨builtin, ((apply_eq_error_iff builtin).1 _).2 (.length (.inr kind) ?_ ?_)⟩
  · decide
  · exact @Unconvertible.separated _ '\x1c' (by decide) (by decide)

theorem apply_fails_excessive :
    kindOf Sample.excessive ≠ .text "custom" ∧
      apply {} {} (.object Sample.excessive) (.text "a") =
        .error .repetitionTooLarge := by
  have kind : kindOf Sample.excessive = .text "regex" := rfl
  refine ⟨?_, rfl⟩
  rw [kind]
  simp

end Rules
end RequestFlow
