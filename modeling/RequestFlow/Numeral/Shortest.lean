import RequestFlow.Numeral.Double

/-!
# The shortest decimal that reads back

Among the decimals that round to a given double, the shortest has the fewest digits, and of those it
is the nearest to the double; a tie goes to the even digit. The text of a double is that decimal,
positional while its magnitude is moderate and with an exponent otherwise.
-/

namespace RequestFlow
namespace Double

/-- The exponent `e` with `10 ^ e ≤ numerator / denominator < 10 ^ (e + 1)`, for a positive
quotient. -/
def decimalExponent (numerator denominator : Nat) : Int :=
  if denominator ≤ numerator then (decimalLength (numerator / denominator) : Int) - 1
  else -(decimalLength ((denominator - 1) / numerator))

/-- A quotient of whole numbers in units of `10 ^ exponent`. -/
def inDecimalUnits (numerator denominator : Nat) (exponent : Int) : Nat × Nat :=
  if exponent < 0 then (numerator * Nat.pow 10 exponent.natAbs, denominator)
  else (numerator, denominator * Nat.pow 10 exponent.natAbs)

/-- The reals that round to a double, as quotients over one denominator: the double itself, the ends
of the interval, and whether the ends belong to it. -/
structure Neighbourhood where
  /-- The numerator of the double itself. -/
  value : Nat
  /-- The numerator of the lower end. -/
  low : Nat
  /-- The numerator of the upper end. -/
  high : Nat
  /-- The common denominator. -/
  denominator : Nat
  /-- Whether the ends belong to the interval. -/
  closed : Bool

/-- The neighbourhood of `significand * 2 ^ exponent`. Below a power of two the doubles lie twice as
dense, so there the lower end is half as far away. -/
def neighbourhood (significand : Nat) (exponent : Int) : Neighbourhood :=
  let atPower := significand = Nat.pow 2 (precision - 1) ∧ leastExponent < exponent
  let below := if atPower then 1 else 2
  let (unit, denominator) := scale 1 1 (-exponent + 2)
  { value := 4 * significand * unit
    low := (4 * significand - below) * unit
    high := (4 * significand + 2) * unit
    denominator
    closed := significand % 2 = 0 }

/-- Whether `digits * 10 ^ exponent` lies in a neighbourhood. -/
def Neighbourhood.holds (around : Neighbourhood) (digits : Nat) (exponent : Int) : Bool :=
  let (low, unit) := inDecimalUnits around.low around.denominator exponent
  let (high, _) := inDecimalUnits around.high around.denominator exponent
  if around.closed then low ≤ digits * unit && digits * unit ≤ high
  else low < digits * unit && digits * unit < high

/-- The decimal on the grid of `10 ^ exponent` that lies in a neighbourhood and is nearest to its
centre, if the grid has a point there. -/
def Neighbourhood.onGrid? (around : Neighbourhood) (exponent : Int) : Option Nat :=
  let (value, unit) := inDecimalUnits around.value around.denominator exponent
  let floor := value / unit
  let nearest := roundDiv value unit
  let other := if nearest = floor then floor + 1 else floor
  if around.holds nearest exponent then some nearest
  else if around.holds other exponent then some other
  else none

/-- The shortest decimal `digits * 10 ^ exponent` that rounds to a positive double. -/
def shortest (significand : Nat) (exponent : Int) : Nat × Int :=
  let around := neighbourhood significand exponent
  let leading := decimalExponent around.value around.denominator
  let found := (List.range 17).findSome? fun (digitsAfterFirst : Nat) =>
    let grid := leading - digitsAfterFirst
    (around.onGrid? grid).map fun digits => (digits, grid)
  found.getD (around.value / around.denominator, 0)

/-- A decimal without the zeros at the end of its digits; `bound` limits their number. -/
def dropTrailingZeros (digits : Nat) (exponent : Int) : (bound : Nat) → Nat × Int
  | 0 => (digits, exponent)
  | bound + 1 =>
    if digits % 10 = 0 ∧ digits ≠ 0 then dropTrailingZeros (digits / 10) (exponent + 1) bound
    else (digits, exponent)

/-- How the digits of a number become text: positional while the exponent of the first digit lies
within the bounds, and with an exponent of at least two digits otherwise. -/
structure TextStyle where
  /-- The least exponent that is written positionally. -/
  leastPositional : Int
  /-- The greatest exponent that is written positionally. -/
  greatestPositional : Int
  /-- The least number of digits of an exponent. -/
  exponentDigits : Nat

/-- The text of a double in values and messages: positional from `0.0001` up to `10 ^ 16`. -/
def plain : TextStyle where
  leastPositional := -4
  greatestPositional := 15
  exponentDigits := 2

/-- Digits padded with zeros on the left to a width. -/
def padDigits (width number : Nat) : List Char :=
  let digits := Nat.toDigits 10 number
  List.replicate (width - digits.length) '0' ++ digits

/-- The text of a decimal whose first digit has the weight `10 ^ leading`. -/
def layOut (style : TextStyle) (digits : List Char) (leading : Int) : List Char :=
  if style.leastPositional ≤ leading ∧ leading ≤ style.greatestPositional then
    if leading < 0 then
      ['0', '.'] ++ List.replicate (leading.natAbs - 1) '0' ++ digits
    else
      let whole := leading.natAbs + 1
      let padded := digits ++ List.replicate (whole - digits.length) '0'
      let fraction := padded.drop whole
      padded.take whole ++ ['.'] ++ (if fraction.isEmpty then ['0'] else fraction)
  else
    let mantissa := match digits with
      | [] => []
      | [single] => [single]
      | first :: rest => first :: '.' :: rest
    let sign := if leading < 0 then '-' else '+'
    mantissa ++ ['e', sign] ++ padDigits style.exponentDigits leading.natAbs

/-- The text of a double: the shortest decimal that reads back, with at least one decimal place. -/
def text (style : TextStyle) : Double → List Char
  | .nan => "nan".toList
  | .infinite negative => (if negative then "-inf" else "inf").toList
  | .finite negative significand exponent =>
    let sign := if negative then ['-'] else []
    if significand = 0 then sign ++ "0.0".toList
    else
      let (digits, grid) := shortest significand exponent
      let (digits, grid) := dropTrailingZeros digits grid 20
      let written := Nat.toDigits 10 digits
      sign ++ layOut style written (grid + written.length - 1)

end Double
end RequestFlow
