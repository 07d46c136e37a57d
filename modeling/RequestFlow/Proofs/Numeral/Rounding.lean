import Mathlib.Algebra.Order.Field.Power
import Mathlib.Data.Rat.Cast.Order
import Mathlib.Tactic.Linarith
import Mathlib.Tactic.Positivity
import Mathlib.Tactic.Ring
import RequestFlow.Proofs.Numeral.Overflow

/-!
# Whole numbers as doubles

A whole number within the range of the doubles is rounded to a multiple of its unit, which is what
the last of its first 53 binary digits counts. Rounding keeps the order of whole numbers, but not
which of them differ: it changes none up to `2 ^ 53`, and beyond that each by at most one part in
`2 ^ 53`. Doubles are compared as the numbers that they denote.
-/

namespace RequestFlow
namespace Double

/-! ## Rounding a quotient -/

section Quotient

variable {numerator denominator : Nat}

/-- Rounding goes at most half a unit up or down. -/
theorem roundDiv_near
    (positive : 0 < denominator)
    (numerator : Nat) :
    2 * numerator ≤ 2 * (roundDiv numerator denominator * denominator) + denominator ∧
      2 * (roundDiv numerator denominator * denominator) ≤ 2 * numerator + denominator := by
  have parts := Nat.div_add_mod' numerator denominator
  have remains := Nat.mod_lt numerator positive
  rw [roundDiv]
  split
  next up =>
    rw [Nat.add_mul, Nat.one_mul]
    omega
  next down =>
    omega

theorem roundDiv_bounds
    (numerator denominator : Nat) :
    numerator / denominator ≤ roundDiv numerator denominator ∧
      roundDiv numerator denominator ≤ numerator / denominator + 1 := by
  rw [roundDiv]
  split <;> omega

theorem roundDiv_mono
    {other : Nat}
    (ordered : numerator ≤ other)
    (denominator : Nat) :
    roundDiv numerator denominator ≤ roundDiv other denominator := by
  have quotients : numerator / denominator ≤ other / denominator :=
    Nat.div_le_div_right ordered
  have parts := Nat.div_add_mod' numerator denominator
  have otherParts := Nat.div_add_mod' other denominator
  rcases Nat.lt_or_eq_of_le quotients with less | same
  · have most := (roundDiv_bounds numerator denominator).2
    have least := (roundDiv_bounds other denominator).1
    omega
  · have remainders : numerator % denominator ≤ other % denominator := by
      rw [same] at parts
      omega
    unfold roundDiv
    simp only [same]
    split <;> split <;> omega

/-- A whole multiple needs no rounding. -/
theorem roundDiv_mul
    (positive : 0 < denominator)
    (quotient : Nat) :
    roundDiv (quotient * denominator) denominator = quotient := by
  have remains : quotient * denominator % denominator = 0 := Nat.mul_mod_left _ _
  have divides : quotient * denominator / denominator = quotient :=
    Nat.mul_div_cancel _ positive
  simp only [roundDiv, remains, divides]
  rw [if_neg]
  omega

theorem roundDiv_one (numerator : Nat) : roundDiv numerator 1 = numerator := by
  simpa using roundDiv_mul Nat.one_pos numerator

end Quotient

/-! ## Rounding a whole number -/

section Whole

variable {number other : Nat}

/-- What the last of the first 53 binary digits of a whole number counts. -/
def unitOf (number : Nat) : Nat :=
  2 ^ (number.log2 - 52)

/-- The multiple of its unit that is nearest to a whole number. -/
def nearest (number : Nat) : Nat :=
  roundDiv number (unitOf number) * unitOf number

theorem unitOf_pos (number : Nat) : 0 < unitOf number :=
  Nat.two_pow_pos _

theorem unitOf_of_lt
    (small : number < 2 ^ 53) :
    unitOf number = 1 := by
  have digits : number.log2 < 53 := by
    rcases Nat.eq_zero_or_pos number with rfl | positive
    · decide
    · exact (Nat.log2_lt (Nat.ne_of_gt positive)).2 small
  rw [unitOf, Nat.sub_eq_zero_of_le (Nat.le_of_lt_succ digits), Nat.pow_zero]

/-- A whole number of at most 53 binary digits is kept. -/
theorem nearest_of_lt
    (small : number < 2 ^ 53) :
    nearest number = number := by
  rw [nearest, unitOf_of_lt small, roundDiv_one, Nat.mul_one]

/-- The unit is no more than one part in `2 ^ 52`. -/
theorem unitOf_mul_le
    (large : 2 ^ 53 ≤ number) :
    unitOf number * 2 ^ 52 ≤ number := by
  have positive : number ≠ 0 := by omega
  have digits : 53 ≤ number.log2 := (Nat.le_log2 positive).2 large
  rw [unitOf, ← Nat.pow_add, Nat.sub_add_cancel (by omega)]
  exact Nat.log2_self_le positive

/-- Rounding changes a whole number by at most one part in `2 ^ 53`. -/
theorem nearest_near (number : Nat) :
    2 ^ 53 * number ≤ 2 ^ 53 * nearest number + number ∧
      2 ^ 53 * nearest number ≤ 2 ^ 53 * number + number := by
  by_cases small : number < 2 ^ 53
  · rw [nearest_of_lt small]
    omega
  · have fine := unitOf_mul_le (Nat.le_of_not_lt small)
    have near := roundDiv_near (unitOf_pos number) number
    rw [nearest]
    omega

/-- A power of two that is a multiple of the unit needs no rounding. -/
theorem roundDiv_two_pow
    {places : Nat}
    (fine : number.log2 - 52 ≤ places) :
    roundDiv (2 ^ places) (unitOf number) * unitOf number = 2 ^ places := by
  have multiple : 2 ^ (places - (number.log2 - 52)) * unitOf number = 2 ^ places := by
    rw [unitOf, ← Nat.pow_add, Nat.sub_add_cancel fine]
  have exact_quotient := roundDiv_mul (unitOf_pos number) (2 ^ (places - (number.log2 - 52)))
  rw [multiple] at exact_quotient
  rw [exact_quotient, multiple]

theorem nearest_le_two_pow
    {places : Nat}
    (below : number ≤ 2 ^ places)
    (fine : number.log2 - 52 ≤ places) :
    nearest number ≤ 2 ^ places := by
  rw [nearest, ← roundDiv_two_pow fine]
  exact Nat.mul_le_mul_right _ (roundDiv_mono below _)

theorem two_pow_le_nearest
    {places : Nat}
    (above : 2 ^ places ≤ number)
    (fine : number.log2 - 52 ≤ places) :
    2 ^ places ≤ nearest number := by
  rw [nearest, ← roundDiv_two_pow fine]
  exact Nat.mul_le_mul_right _ (roundDiv_mono above _)

/-- Rounding keeps the order of whole numbers. -/
theorem nearest_mono
    (ordered : number ≤ other) :
    nearest number ≤ nearest other := by
  rcases Nat.eq_zero_or_pos number with rfl | positive
  · exact (Nat.le_of_eq (nearest_of_lt (by decide))).trans (Nat.zero_le _)
  have number_ne : number ≠ 0 := Nat.ne_of_gt positive
  have other_ne : other ≠ 0 := by omega
  by_cases digits : number.log2 = other.log2
  · have unit : unitOf number = unitOf other := by rw [unitOf, unitOf, digits]
    rw [nearest, nearest, unit]
    exact Nat.mul_le_mul_right _ (roundDiv_mono ordered _)
  · -- The power of two at which the longer number begins lies between the two.
    have reaches : 2 ^ other.log2 ≤ other := Nat.log2_self_le other_ne
    have fewer : number.log2 < other.log2 := by
      refine Nat.lt_of_le_of_ne ((Nat.le_log2 other_ne).2 ?_) digits
      exact (Nat.log2_self_le number_ne).trans ordered
    have below : number ≤ 2 ^ other.log2 := Nat.le_of_lt ((Nat.log2_lt number_ne).1 fewer)
    exact (nearest_le_two_pow below (by omega)).trans (two_pow_le_nearest reaches (by omega))

/-- A whole number from `2 ^ 53` on stays there when it is rounded. -/
theorem le_nearest
    (large : 2 ^ 53 ≤ number) :
    2 ^ 53 ≤ nearest number :=
  (two_pow_le_nearest (Nat.le_refl _) (by decide)).trans (nearest_mono large)

/-- A whole number of any sign is rounded as its size is. -/
def nearestInt (number : Int) : Int :=
  if number < 0 then -(nearest number.natAbs) else nearest number.natAbs

theorem nearestInt_mono
    {number other : Int}
    (ordered : number ≤ other) :
    nearestInt number ≤ nearestInt other := by
  unfold nearestInt
  by_cases negative : number < 0
  · by_cases otherNegative : other < 0
    · have sizes : nearest other.natAbs ≤ nearest number.natAbs := nearest_mono (by omega)
      rw [if_pos negative, if_pos otherNegative]
      omega
    · rw [if_pos negative, if_neg otherNegative]
      omega
  · have sizes : nearest number.natAbs ≤ nearest other.natAbs := nearest_mono (by omega)
    rw [if_neg negative, if_neg (by omega)]
    omega

theorem natAbs_nearestInt (number : Int) :
    (nearestInt number).natAbs = nearest number.natAbs := by
  unfold nearestInt
  split
  · rw [Int.natAbs_neg, Int.natAbs_natCast]
  · rw [Int.natAbs_natCast]

theorem nearestInt_of_lt
    {number : Int}
    (small : number.natAbs < 2 ^ 53) :
    nearestInt number = number := by
  unfold nearestInt
  rw [nearest_of_lt small]
  split <;> omega

/-- Whole numbers that are rounded alike are equal, or both have more than 53 binary digits and lie
within one part in `2 ^ 53` of their sizes. -/
theorem eq_or_near_of_nearestInt_eq
    {number other : Int}
    (alike : nearestInt number = nearestInt other) :
    number = other ∨
      2 ^ 53 ≤ number.natAbs ∧ 2 ^ 53 ≤ other.natAbs ∧
        2 ^ 53 * (number - other).natAbs ≤ number.natAbs + other.natAbs := by
  have sizes : nearest number.natAbs = nearest other.natAbs := by
    rw [← natAbs_nearestInt, alike, natAbs_nearestInt]
  by_cases small : number.natAbs < 2 ^ 53
  · have otherSmall : other.natAbs < 2 ^ 53 := by
      refine Nat.lt_of_not_le fun large => ?_
      have reaches := le_nearest large
      rw [← sizes, nearest_of_lt small] at reaches
      omega
    left
    calc
      number = nearestInt number := (nearestInt_of_lt small).symm
      _ = nearestInt other := alike
      _ = other := nearestInt_of_lt otherSmall
  · have large := Nat.le_of_not_lt small
    have reaches := le_nearest large
    have otherLarge : 2 ^ 53 ≤ other.natAbs := by
      refine Nat.le_of_not_lt fun otherSmall => ?_
      rw [sizes, nearest_of_lt otherSmall] at reaches
      omega
    have near := nearest_near number.natAbs
    have otherNear := nearest_near other.natAbs
    refine .inr ⟨large, otherLarge, ?_⟩
    -- Since neither is rounded to zero, both have the same sign.
    unfold nearestInt at alike
    split at alike <;> split at alike <;> omega

end Whole

/-! ## What doubles denote -/

/-- A finite double denotes a number. -/
inductive Denotes : Double → ℚ → Prop
  | finite (negative : Bool) (significand : Nat) (exponent : Int) :
      Denotes (.finite negative significand exponent)
        ((if negative then -1 else 1) * significand * 2 ^ exponent)

/-- At an exponent that is no greater, a double is that multiple of the power of two. -/
theorem cast_alignedTo
    {negative : Bool}
    {significand : Nat}
    {exponent target : Int}
    (below : target ≤ exponent) :
    (alignedTo negative significand exponent target * 2 ^ target : ℚ) =
      (if negative then -1 else 1) * significand * 2 ^ exponent := by
  have split : (2 ^ exponent : ℚ) = 2 ^ (exponent - target).natAbs * 2 ^ target := by
    rw [← zpow_natCast, ← zpow_add₀ (by decide), Int.natAbs_of_nonneg (by omega),
      Int.sub_add_cancel]
  rw [alignedTo, split]
  cases negative <;> simp [mul_assoc]

section Order

variable {first second : Double} {number other : ℚ}

/-- Two doubles are compared as multiples of a power of two. -/
theorem Denotes.exists_order
    (denotes : Denotes first number)
    (denotesOther : Denotes second other) :
    ∃ (size otherSize : Int) (unit : ℚ),
      0 < unit ∧ number = size * unit ∧ other = otherSize * unit ∧
        first.order second = some (compare size otherSize) := by
  obtain ⟨negative, significand, exponent⟩ := denotes
  obtain ⟨otherNegative, otherSignificand, otherExponent⟩ := denotesOther
  exact ⟨_, _, _, by positivity, (cast_alignedTo (Int.min_le_left exponent otherExponent)).symm,
    (cast_alignedTo (Int.min_le_right exponent otherExponent)).symm, rfl⟩

/-- Doubles are ordered as the numbers that they denote. -/
theorem Denotes.le_iff
    (denotes : Denotes first number)
    (denotesOther : Denotes second other) :
    first.le second = true ↔ number ≤ other := by
  obtain ⟨size, otherSize, unit, positive, rfl, rfl, order⟩ := denotes.exists_order denotesOther
  rw [mul_le_mul_iff_left₀ positive, Int.cast_le, ← Int.isLE_compare, Double.le, order]
  cases compare size otherSize <;> rfl

theorem Denotes.same_iff
    (denotes : Denotes first number)
    (denotesOther : Denotes second other) :
    first.same second = true ↔ number = other := by
  obtain ⟨size, otherSize, unit, positive, rfl, rfl, order⟩ := denotes.exists_order denotesOther
  rw [mul_left_inj' positive.ne', Int.cast_inj, ← Int.compare_eq_eq, Double.same, order]
  simp

end Order

/-! ## The doubles of whole numbers -/

section Nearest

variable {number : Nat}

/-- The significand of a whole number that is not zero, at its exponent, is the number rounded. -/
theorem roundDiv_scale
    (positive : number ≠ 0) :
    (roundDiv (scale number 1 (number.log2 - 52)).1 (scale number 1 (number.log2 - 52)).2 : ℚ) *
      2 ^ (number.log2 - 52 : Int) = nearest number := by
  unfold scale
  split
  next small =>
    have below : number < 2 ^ 53 := (Nat.log2_lt positive).1 (by omega)
    have exponent : (number.log2 - 52 : Int) = -((number.log2 - 52 : Int).natAbs : Int) := by
      omega
    generalize (number.log2 - 52 : Int).natAbs = places at *
    rw [nearest_of_lt below, roundDiv_one, exponent, zpow_neg, zpow_natCast, Nat.pow_eq]
    push_cast
    exact mul_inv_cancel_right₀ (by positivity) _
  next large =>
    have exponent : (number.log2 - 52 : Int) = (number.log2 - 52 : Nat) := by omega
    rw [exponent, zpow_natCast, Int.natAbs_natCast, Nat.pow_eq, Nat.one_mul, nearest, unitOf]
    push_cast
    rfl

/-- The double nearest to a whole number is infinite, or it denotes the number rounded. -/
theorem infinite_or_denotes_ofQuotient
    (negative : Bool)
    (positive : number ≠ 0) :
    (∃ sign, ofQuotient negative number 1 = .infinite sign) ∨
      Denotes (ofQuotient negative number 1)
        ((if negative then -1 else 1) * nearest number) := by
  have significand := roundDiv_scale positive
  rw [ofQuotient, if_neg positive, exponentOf_one positive]
  simp only [precision, Nat.pow_eq]
  generalize roundDiv _ _ = rounded at *
  by_cases full : rounded = 2 ^ 53
  · -- One digit too many: the significand is halved, and the exponent is one more.
    have halved : ((2 ^ 52 : Nat) : ℚ) * 2 ^ (number.log2 - 52 + 1 : Int) = nearest number := by
      rw [← significand, full, zpow_add₀ (by decide), zpow_one]
      push_cast
      ring
    simp only [full, if_true, Nat.add_one_sub_one]
    split
    · exact .inl ⟨negative, rfl⟩
    · rw [← halved, ← mul_assoc]
      exact .inr (.finite _ _ _)
  · simp only [full, if_false]
    split
    · exact .inl ⟨negative, rfl⟩
    · rw [← significand, ← mul_assoc]
      exact .inr (.finite _ _ _)

end Nearest

/-- The double nearest to a whole number denotes that number rounded, unless it is infinite. -/
theorem denotes_ofInt
    {number : Int}
    (below : number.natAbs < overflow) :
    Denotes (ofInt number) (nearestInt number) := by
  have finite : ¬∃ sign, ofInt number = .infinite sign := by
    rw [exists_ofInt_eq_infinite_iff]
    exact Nat.not_le.2 below
  by_cases zero : number = 0
  · subst zero
    have denotes : Denotes (ofInt 0) _ := .finite false 0 leastExponent
    simpa [nearestInt, nearest_of_lt] using denotes
  · have denotes := (infinite_or_denotes_ofQuotient (number < 0)
      (Int.natAbs_ne_zero.2 zero)).resolve_left finite
    unfold nearestInt
    by_cases negative : number < 0
    · simpa [negative, ofInt] using denotes
    · simpa [negative, ofInt] using denotes

/-- The doubles nearest to two whole numbers denote the same number. -/
def RoundAlike
    (number other : Int) : Prop :=
  (ofInt number).same (ofInt other) = true

section Comparison

variable {number other : Int}
  (below : number.natAbs < overflow) (otherBelow : other.natAbs < overflow)

include below otherBelow

theorem roundAlike_iff :
    RoundAlike number other ↔ nearestInt number = nearestInt other := by
  rw [RoundAlike, (denotes_ofInt below).same_iff (denotes_ofInt otherBelow), Int.cast_inj]

/-- The doubles nearest to whole numbers are ordered as the numbers are, unless the numbers are
rounded alike. -/
theorem le_ofInt_iff :
    (ofInt number).le (ofInt other) = true ↔ number ≤ other ∨ RoundAlike number other := by
  rw [(denotes_ofInt below).le_iff (denotes_ofInt otherBelow), roundAlike_iff below otherBelow,
    Int.cast_le]
  constructor
  · intro ordered
    rcases Int.le_total number other with less | greater
    · exact .inl less
    · exact .inr (Int.le_antisymm ordered (nearestInt_mono greater))
  · rintro (less | same)
    · exact nearestInt_mono less
    · exact Int.le_of_eq same

end Comparison

/-- Whole numbers of up to 300 decimal digits are within the range of the doubles. -/
theorem lt_overflow
    {number : Nat}
    (short : number < 10 ^ 300) :
    number < overflow := by
  have digits : 10 ^ 300 < overflow := by
    unfold overflow
    decide +kernel
  exact short.trans digits

end Double
end RequestFlow
