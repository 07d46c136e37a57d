import RequestFlow.Proofs.Numeral.Rounding
import RequestFlow.Proofs.Numeral.Whole
import RequestFlow.Rules.Basic

/-!
# Whole numbers and their bounds

A rule on a bound compares doubles. A whole number that is within its bound always passes, and one
that is beyond passes as well if both are rounded to the same double; up to `2 ^ 53` this is the
case for no two numbers that differ.
-/

namespace RequestFlow
namespace Rules

/-- A whole number is given: as it is, or as its decimal text. -/
inductive Gives : Value → Int → Prop
  | int (number : Int) : Gives (.int number) number
  | text (number : Int) : Gives (.text (String.ofList (intText number))) number

section Numbers

variable {value bound : Value} {number limit : Int}

theorem Gives.isNumeric
    (gives : Gives value number) :
    isNumeric value = true := by
  cases gives with
  | int => rfl
  | text =>
      rw [Rules.isNumeric, String.toList_ofList]
      exact Numeral.isDecimal_intText number

theorem length_toDigits_le
    {number places : Nat}
    (positive : 0 < places)
    (short : number < 10 ^ places) :
    (Nat.toDigits 10 number).length ≤ places :=
  (Nat.length_toDigits_le_iff (by decide) positive).2 short

/-- A whole number of up to 300 digits is converted to the double nearest to it. -/
theorem Gives.toDouble
    (gives : Gives value number)
    (short : number.natAbs < 10 ^ 300) :
    value.toDouble = .ok (.ofInt number) := by
  cases gives with
  | int =>
      have finite : ¬∃ negative, Double.ofInt number = .infinite negative := by
        rw [Double.exists_ofInt_eq_infinite_iff]
        exact Nat.not_le.2 (Double.lt_overflow short)
      rw [Value.toDouble, Value.doubleOfInt]
      split
      next infinite => exact absurd ⟨_, infinite⟩ finite
      · rfl
  | text =>
      have digits := length_toDigits_le (by decide) short
      have read := Numeral.readDouble?_intText (digits.trans (by decide))
      rw [Value.toDouble, String.toList_ofList, read]

/-- Whole numbers are compared as the doubles nearest to them. -/
theorem checkNumber_of_gives
    (gives : Gives value number)
    (givesBound : Gives bound limit)
    (short : number.natAbs < 10 ^ 300)
    (shortBound : limit.natAbs < 10 ^ 300)
    (compares : Double → Double → Bool) :
    checkNumber compares value bound = .ok (compares (.ofInt limit) (.ofInt number)) := by
  rw [checkNumber, gives.isNumeric, givesBound.isNumeric, gives.toDouble short,
    givesBound.toDouble shortBound]
  rfl

end Numbers

theorem Verdict.valid_ofTest
    (ok : Bool)
    (rule : Fields)
    (default : String) :
    (Verdict.ofTest ok rule default).valid = ok := by
  cases ok <;> rfl

/-- The kinds of rules on the bound of a number, with the comparison that they make and what their
default messages say before the bound. -/
inductive Bounding : String → (Double → Double → Bool) → String → Prop
  | min : Bounding "min" reaches "Minimum value: "
  | max : Bounding "max" staysWithin "Maximum value: "

/-- The verdict of a rule on a bound is that of its comparison. -/
theorem apply_of_bounding
    {kind label : String}
    {compares : Double → Double → Bool}
    {rule : Fields}
    {value : Value}
    {ok : Bool}
    (bounding : Bounding kind compares label)
    (asks : kindOf rule = .text kind)
    (checked : checkNumber compares value (boundOf rule) = .ok ok)
    (support : Support)
    (request : Request) :
    apply support request (.object rule) value =
      .ok (.ofTest ok rule (label ++ (boundOf rule).display)) := by
  rw [apply, applyFields, asks]
  cases bounding <;> simp only [checked] <;> rfl

/-- A rule on a bound lets a whole number pass exactly if it is within the bound or rounded as the
bound is. Both may be given as numbers or as texts. Numbers that are rounded alike and differ have
more than 53 binary digits, and lie within one part in `2 ^ 53` of their sizes. -/
theorem apply_bound_of_gives
    {rule : Fields}
    {value : Value}
    {number limit : Int}
    (gives : Gives value number)
    (givesBound : Gives (boundOf rule) limit)
    (short : number.natAbs < 10 ^ 300)
    (shortBound : limit.natAbs < 10 ^ 300)
    (support : Support)
    (request : Request) :
    (kindOf rule = .text "min" →
      ∃ verdict, apply support request (.object rule) value = .ok verdict ∧
        (verdict.valid = true ↔ limit ≤ number ∨ Double.RoundAlike number limit)) ∧
    (kindOf rule = .text "max" →
      ∃ verdict, apply support request (.object rule) value = .ok verdict ∧
        (verdict.valid = true ↔ number ≤ limit ∨ Double.RoundAlike number limit)) ∧
    (Double.RoundAlike number limit →
      number = limit ∨
        2 ^ 53 ≤ number.natAbs ∧ 2 ^ 53 ≤ limit.natAbs ∧
          2 ^ 53 * (number - limit).natAbs ≤ number.natAbs + limit.natAbs) := by
  have finite := Double.lt_overflow short
  have finiteBound := Double.lt_overflow shortBound
  have checked := checkNumber_of_gives gives givesBound short shortBound
  refine ⟨fun kind => ?_, fun kind => ?_, fun alike => ?_⟩
  · refine ⟨_, apply_of_bounding .min kind (checked _) support request, ?_⟩
    rw [Verdict.valid_ofTest, reaches, Double.le_ofInt_iff finiteBound finite,
      Double.roundAlike_iff finiteBound finite, Double.roundAlike_iff finite finiteBound, eq_comm]
  · refine ⟨_, apply_of_bounding .max kind (checked _) support request, ?_⟩
    rw [Verdict.valid_ofTest, staysWithin, Double.le_ofInt_iff finite finiteBound]
  · exact Double.eq_or_near_of_nearestInt_eq ((Double.roundAlike_iff finite finiteBound).1 alike)

namespace Sample

/-- A rule on the least number that passes. -/
def atLeast (bound : Value) : Fields :=
  [(.text "type", .text "min"), (.text "value", bound)]

end Sample

/-- The greatest number up to which there are no gaps passes where one more is asked for as a
text. -/
theorem apply_bound_of_gives_text :
    Gives (.int 9007199254740992) 9007199254740992 ∧
    Gives (boundOf (Sample.atLeast (.text "9007199254740993"))) 9007199254740993 ∧
    ∃ verdict,
      apply {} {} (.object (Sample.atLeast (.text "9007199254740993")))
        (.int 9007199254740992) = .ok verdict ∧
      verdict.valid = true := by
  have bound : Gives (boundOf (Sample.atLeast (.text "9007199254740993"))) 9007199254740993 :=
    .text 9007199254740993
  obtain ⟨least, -⟩ := apply_bound_of_gives (.int 9007199254740992) bound (by decide +kernel)
    (by decide +kernel) {} {}
  obtain ⟨verdict, applied, valid_iff⟩ := least rfl
  have alike : Double.RoundAlike 9007199254740992 9007199254740993 := by
    rw [Double.RoundAlike]
    decide +kernel
  exact ⟨.int _, bound, verdict, applied, valid_iff.2 (.inr alike)⟩

/-- A number below the bound passes. -/
theorem apply_passes_below :
    apply {} {} (.object (Sample.atLeast (.int 9007199254740993)))
        (.int 9007199254740992) = .ok .passed ∧
      Verdict.passed.valid = true ∧
      (9007199254740992 : Int) < 9007199254740993 :=
  ⟨rfl, rfl, by decide⟩

end Rules
end RequestFlow
