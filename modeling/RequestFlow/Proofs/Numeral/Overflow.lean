import Mathlib.Algebra.Group.Nat.Defs
import RequestFlow.Fault

/-!
# Whole numbers beyond all doubles

A whole number converts to the double nearest to it, unless that is infinite. This is so from the
number on that lies halfway between the greatest double and the next power of two, since there the
tie goes to the even significand, which has a digit too many.
-/

namespace RequestFlow

namespace Double

variable {number : Nat}

/-- Rounding reaches the quotient after an odd one from the half between them on. -/
theorem roundDiv_eq_succ_iff
    {numerator half quotient : Nat}
    (below : numerator < (quotient + 1) * (2 * half))
    (odd : quotient % 2 = 1) :
    roundDiv numerator (2 * half) = quotient + 1 ↔ quotient * (2 * half) + half ≤ numerator := by
  have positive : 0 < 2 * half := by
    refine Nat.pos_of_ne_zero fun zero => ?_
    rw [zero] at below
    exact Nat.not_lt_zero _ below
  have parts := Nat.div_add_mod' numerator (2 * half)
  have remains := Nat.mod_lt numerator positive
  have most : numerator / (2 * half) ≤ quotient :=
    Nat.le_of_lt_succ ((Nat.div_lt_iff_lt_mul positive).2 below)
  rw [roundDiv]
  constructor
  · intro reached
    split at reached
    next up =>
      rw [Nat.succ.inj reached] at parts
      omega
    · omega
  · intro reached
    have same : numerator / (2 * half) = quotient := by
      refine Nat.le_antisymm most ((Nat.le_div_iff_mul_le positive).2 ?_)
      omega
    rw [same] at parts
    rw [same, if_pos (by omega)]

/-- A whole number that is scaled to a significand has all the digits of one. -/
theorem le_scale
    (positive : number ≠ 0) :
    (scale number 1 (number.log2 - 52)).2 * Nat.pow 2 (precision - 1) ≤
      (scale number 1 (number.log2 - 52)).1 := by
  have least := Nat.log2_self_le positive
  unfold scale
  split
  next small =>
    have digits : (number.log2 - 52 : Int).natAbs + number.log2 = 52 := by omega
    change 1 * 2 ^ 52 ≤ number * 2 ^ (number.log2 - 52 : Int).natAbs
    rw [Nat.one_mul, ← digits, Nat.pow_add, Nat.mul_comm]
    exact Nat.mul_le_mul_right _ least
  next large =>
    have digits : (number.log2 - 52 : Int).natAbs + 52 = number.log2 := by omega
    change 1 * 2 ^ (number.log2 - 52 : Int).natAbs * 2 ^ 52 ≤ number
    rwa [Nat.one_mul, ← Nat.pow_add, digits]

/-- The exponent of a whole number puts its first digit at the front of the significand. -/
theorem exponentOf_one
    (positive : number ≠ 0) :
    exponentOf number 1 = number.log2 - 52 := by
  have unit : (Nat.log2 1 : Int) = 0 := by decide
  have guess : (number.log2 - (Nat.log2 1 : Int) - (precision - 1) : Int) = number.log2 - 52 := by
    rw [unit, precision]
    omega
  have enough := Nat.not_lt.2 (le_scale positive)
  unfold exponentOf
  simp only [guess]
  rw [if_neg enough, leastExponent]
  omega

/-- The least whole number whose nearest double is infinite. It lies halfway between the greatest
double, `(2 ^ 53 - 1) * 2 ^ 971`, and the next power of two. -/
def overflow : Nat := (2 ^ 53 - 1) * (2 * 2 ^ 970) + 2 ^ 970

theorem overflow_pos : 0 < overflow := by
  unfold overflow
  generalize 970 = places
  exact Nat.lt_of_lt_of_le (Nat.two_pow_pos places) (Nat.le_add_left _ _)

/-- A whole number is infinite as a double if its exponent is too great, counting in that rounding
may add a digit. -/
theorem exists_ofQuotient_one_iff
    {negative : Bool}
    (positive : number ≠ 0) :
    (∃ sign, ofQuotient negative number 1 = .infinite sign) ↔
      1023 < number.log2 ∨ number.log2 = 1023 ∧
        roundDiv (scale number 1 (number.log2 - 52)).1 (scale number 1 (number.log2 - 52)).2 =
          2 ^ 53 := by
  rw [ofQuotient, if_neg positive, exponentOf_one positive]
  simp only [precision, Nat.pow_eq, greatestExponent]
  by_cases full :
      roundDiv (scale number 1 (number.log2 - 52)).1 (scale number 1 (number.log2 - 52)).2 = 2 ^ 53
  · simp only [full, if_true]
    split <;> simp <;> omega
  · simp only [full, if_false]
    split <;> simp <;> omega

theorem log2_lt_add_iff
    {digits places : Nat}
    (positive : number ≠ 0) :
    number.log2 < digits + places ↔ number < 2 ^ digits * 2 ^ places := by
  rw [Nat.log2_lt positive, Nat.pow_add]

/-- At a positive exponent, the unit of the significand is twice a power of two. -/
theorem scale_succ (places : Nat) :
    scale number 1 (places + 1 : Nat) = (number, 2 * 2 ^ places) := by
  rw [scale, if_neg (by omega)]
  change (number, 1 * 2 ^ (places + 1)) = _
  rw [Nat.one_mul, Nat.pow_succ, Nat.mul_comm]

theorem exists_ofQuotient_one_iff_overflow
    {negative : Bool}
    (positive : number ≠ 0) :
    (∃ sign, ofQuotient negative number 1 = .infinite sign) ↔ overflow ≤ number := by
  rw [exists_ofQuotient_one_iff positive]
  unfold overflow
  -- A great power of two is a name here, since nothing may evaluate it.
  generalize rank : 970 = places
  have unit_pos : 0 < 2 ^ places := Nat.two_pow_pos places
  have within : number.log2 < 53 + places ↔ number < 2 ^ 53 * 2 ^ places :=
    log2_lt_add_iff positive
  have beyond : number.log2 < 54 + places ↔ number < 2 ^ 54 * 2 ^ places :=
    log2_lt_add_iff positive
  have scaled : scale number 1 (places + 1 : Nat) = (number, 2 * 2 ^ places) := scale_succ places
  generalize 2 ^ places = unit at *
  by_cases border : number.log2 = 1023
  · have below : number < (2 ^ 53 - 1 + 1) * (2 * unit) := by omega
    have exponent : (number.log2 - 52 : Int) = (places + 1 : Nat) := by omega
    rw [exponent, scaled, ← roundDiv_eq_succ_iff below (by decide)]
    simp [border]
  · simp only [border, false_and, or_false]
    omega

/-- The double nearest to a whole number is infinite from the overflow on, whatever its sign. -/
theorem exists_ofInt_eq_infinite_iff
    {number : Int} :
    (∃ negative, ofInt number = .infinite negative) ↔ overflow ≤ number.natAbs := by
  unfold ofInt
  by_cases zero : number.natAbs = 0
  · rw [zero, ofQuotient, if_pos rfl]
    simp [Nat.not_le.2 overflow_pos]
  · exact exists_ofQuotient_one_iff_overflow zero

end Double

/-- A whole number converts unless it is too large. -/
theorem Value.doubleOfInt_eq_error_iff
    {number : Int}
    {fault : Fault} :
    doubleOfInt number = .error fault ↔
      Double.overflow ≤ number.natAbs ∧ fault = .integerTooLarge := by
  rw [← Double.exists_ofInt_eq_infinite_iff]
  unfold doubleOfInt
  cases Double.ofInt number <;> simp [eq_comm]

end RequestFlow
