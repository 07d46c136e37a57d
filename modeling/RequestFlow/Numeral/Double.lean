/-!
# Binary floating-point numbers

A double is held as the exact number it denotes: a sign, a whole significand and a power of two. It
is made by rounding a quotient of whole numbers to the nearest double, a tie going to the even
significand, so every conversion and comparison is a computation on whole numbers.
-/

namespace RequestFlow

/-- A number of the binary64 format. `finite negative significand exponent` denotes `± significand *
2 ^ exponent`, with a significand below `2 ^ 53` and an exponent of at least `-1074` that is as
small as the significand allows. -/
inductive Double
  | nan
  | infinite (negative : Bool)
  | finite (negative : Bool) (significand : Nat) (exponent : Int)
  deriving DecidableEq, Repr

namespace Double

/-- The number of binary digits of a significand. -/
def precision : Nat := 53

/-- The least exponent of a double. -/
def leastExponent : Int := -1074

/-- The greatest exponent of a double. -/
def greatestExponent : Int := 971

/-- The whole number nearest to a quotient; a half goes to the even neighbour. -/
def roundDiv (numerator denominator : Nat) : Nat :=
  let quotient := numerator / denominator
  let remainder := numerator % denominator
  if denominator < 2 * remainder ∨ (2 * remainder = denominator ∧ quotient % 2 = 1) then
    quotient + 1
  else quotient

/-- The quotient `numerator / (denominator * 2 ^ exponent)` as a numerator and a denominator. -/
def scale (numerator denominator : Nat) (exponent : Int) : Nat × Nat :=
  if exponent < 0 then (numerator * Nat.pow 2 exponent.natAbs, denominator)
  else (numerator, denominator * Nat.pow 2 exponent.natAbs)

/-- The exponent at which a positive quotient has a significand of full precision, or the least
exponent if that is greater. -/
def exponentOf (numerator denominator : Nat) : Int :=
  let guess : Int := numerator.log2 - denominator.log2 - (precision - 1)
  let (scaled, unit) := scale numerator denominator guess
  max leastExponent (if scaled < unit * Nat.pow 2 (precision - 1) then guess - 1 else guess)

/-- The double nearest to a quotient of whole numbers; beyond the greatest double it is infinite. -/
def ofQuotient (negative : Bool) (numerator denominator : Nat) : Double :=
  if numerator = 0 then .finite negative 0 leastExponent
  else
    let exponent := exponentOf numerator denominator
    let (scaled, unit) := scale numerator denominator exponent
    let rounded := roundDiv scaled unit
    let (significand, exponent) :=
      if rounded = Nat.pow 2 precision then (Nat.pow 2 (precision - 1), exponent + 1)
      else (rounded, exponent)
    if greatestExponent < exponent then .infinite negative
    else .finite negative significand exponent

/-- The double nearest to a whole number. -/
def ofInt (number : Int) : Double :=
  ofQuotient (number < 0) number.natAbs 1

/-- The number of decimal digits of a whole number; zero has one. -/
def decimalLength (number : Nat) : Nat :=
  (Nat.toDigits 10 number).length

/-- The double nearest to `digits * 10 ^ exponent`. Exponents far outside the range of a double are
settled by the size of the number alone. -/
def ofDecimal (negative : Bool) (digits : Nat) (exponent : Int) : Double :=
  let magnitude : Int := decimalLength digits + exponent
  if digits = 0 ∨ magnitude < -400 then .finite negative 0 leastExponent
  else if 400 < magnitude then .infinite negative
  else if exponent < 0 then ofQuotient negative digits (Nat.pow 10 exponent.natAbs)
  else ofQuotient negative (digits * Nat.pow 10 exponent.natAbs) 1

/-- A double is not zero; a NaN is not. -/
def isNonzero : Double → Bool
  | .nan => true
  | .infinite _ => true
  | .finite _ significand _ => significand != 0

/-- A finite double with its sign, as a multiple of `2 ^ exponent` for a smaller exponent. -/
def alignedTo (negative : Bool) (significand : Nat) (exponent target : Int) : Int :=
  let size : Nat := significand * Nat.pow 2 (exponent - target).natAbs
  if negative then -size else size

/-- The order of two doubles; none if one of them is not a number. -/
def order : Double → Double → Option Ordering
  | .nan, _ => none
  | _, .nan => none
  | .infinite first, .infinite second =>
    some (compare (if first then 0 else 1) (if second then 0 else 1))
  | .infinite first, .finite _ _ _ => some (if first then .lt else .gt)
  | .finite _ _ _, .infinite second => some (if second then .gt else .lt)
  | .finite firstSign firstSize firstExponent, .finite secondSign secondSize secondExponent =>
    let target := min firstExponent secondExponent
    some (compare (alignedTo firstSign firstSize firstExponent target)
      (alignedTo secondSign secondSize secondExponent target))

/-- The first double is at most the second. -/
def le (first second : Double) : Bool :=
  match order first second with
  | some .lt | some .eq => true
  | _ => false

/-- The whole part of a finite double, toward zero. -/
def truncate? : Double → Option Int
  | .finite negative significand exponent =>
    let size : Nat :=
      if exponent < 0 then significand / Nat.pow 2 exponent.natAbs
      else significand * Nat.pow 2 exponent.natAbs
    some (if negative then -size else size)
  | _ => none

/-- The whole number that a double is equal to, if there is one. -/
def toInt? : Double → Option Int
  | .finite negative significand exponent =>
    if exponent < 0 ∧ significand % Nat.pow 2 exponent.natAbs ≠ 0 then none
    else (Double.finite negative significand exponent).truncate?
  | _ => none

/-- Two doubles denote the same number. The two zeros do, and a NaN differs from itself. -/
def same (first second : Double) : Bool :=
  order first second == some .eq

end Double
end RequestFlow
