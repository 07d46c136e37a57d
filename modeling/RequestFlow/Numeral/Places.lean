import RequestFlow.Numeral.Shortest

/-!
# Decimals with a given number of places

A double in decimal with as many places as are asked for: fixed, with an exponent, or in whichever
of the two is shorter. The exact value is rounded once, and a half goes to the even digit.
-/

namespace RequestFlow
namespace Double

/-- How a double is laid out: with fixed places, with an exponent, or as its magnitude asks for. -/
inductive DecimalForm
  | fixed
  | scientific
  | general
  deriving DecidableEq, Repr

/-- A finite magnitude as a quotient of whole numbers. -/
def quotient (significand : Nat) (exponent : Int) : Nat × Nat :=
  scale significand 1 (-exponent)

/-- Digits with a point after the whole part; the point is kept without places if that is asked
for. -/
def withPoint (keepPoint : Bool) (whole places : List Char) : List Char :=
  if places.isEmpty && !keepPoint then whole else whole ++ '.' :: places

/-- Digits without the zeros at their end. -/
def withoutEndZeros (places : List Char) : List Char :=
  (places.reverse.dropWhile (· == '0')).reverse

/-- A quotient with fixed places, as its digits before and after the point. -/
def fixedDigits (places numerator denominator : Nat) : List Char × List Char :=
  let digits := padDigits (places + 1) (roundDiv (numerator * Nat.pow 10 places) denominator)
  digits.splitAt (digits.length - places)

/-- A quotient in so many digits: the first, the others, and the exponent of the first. -/
def scientificDigits (places numerator denominator : Nat) : List Char × List Char × Int :=
  if numerator = 0 then (['0'], List.replicate places '0', 0)
  else
    let leading := decimalExponent numerator denominator
    let (scaled, unit) := inDecimalUnits numerator denominator (leading - places)
    let rounded := roundDiv scaled unit
    let (digits, leading) :=
      if rounded = Nat.pow 10 (places + 1) then (Nat.pow 10 places, leading + 1)
      else (rounded, leading)
    let written := Nat.toDigits 10 digits
    (written.take 1, written.drop 1, leading)

/-- The text of an exponent. -/
def exponentText (leading : Int) : List Char :=
  'e' :: (if leading < 0 then '-' else '+') :: padDigits 2 leading.natAbs

/-- A quotient in a notation. In the general one, the places count all digits, and zeros at the end
are left out unless the point is kept. -/
def magnitudeText (style : DecimalForm) (keepPoint : Bool) (places numerator denominator : Nat) :
    List Char :=
  match style with
  | .fixed =>
    let (whole, fraction) := fixedDigits places numerator denominator
    withPoint keepPoint whole fraction
  | .scientific =>
    let (first, others, leading) := scientificDigits places numerator denominator
    withPoint keepPoint first others ++ exponentText leading
  | .general =>
    let digits := max places 1
    let trim := fun fraction => if keepPoint then fraction else withoutEndZeros fraction
    let (first, others, leading) := scientificDigits (digits - 1) numerator denominator
    if leading < -4 ∨ (digits : Int) ≤ leading then
      withPoint keepPoint first (trim others) ++ exponentText leading
    else
      let (whole, fraction) :=
        fixedDigits (digits - 1 - leading).toNat numerator denominator
      withPoint keepPoint whole (trim fraction)

/-- The text of a double in a notation. -/
def placesText (style : DecimalForm) (keepPoint : Bool) (places : Nat) : Double → List Char
  | .nan => "nan".toList
  | .infinite negative => (if negative then "-inf" else "inf").toList
  | .finite negative significand exponent =>
    let (numerator, denominator) := quotient significand exponent
    (if negative then ['-'] else []) ++
      magnitudeText style keepPoint places numerator denominator

end Double
end RequestFlow
