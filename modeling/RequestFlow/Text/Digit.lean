import RequestFlow.Text.CharSet

/-!
# Decimal digits

The decimal digits of every script. Each script has ten of them at consecutive code points, zero
first.
-/

namespace RequestFlow
namespace Text

/-- The digit zero of each script, ASCII aside. -/
def zeroDigits : List Nat :=
  (entries
    "660 6f0 7c0 966 9e6 a66 ae6 b66 be6 c66 ce6 d66 de6 e50 ed0 f20 1040 1090 17e0 1810 1946
     19d0 1a80 1a90 1b50 1bb0 1c40 1c50 a620 a8d0 a900 a9d0 a9f0 aa50 abf0 ff10 104a0 10d30 11066
     110f0 11136 111d0 112f0 11450 114d0 11650 116c0 11730 118e0 11950 11c50 11d50 11da0 16a60
     16ac0 16b50 1d7ce 1d7d8 1d7e2 1d7ec 1d7f6 1e140 1e2f0 1e950 1fbf0").map hexNumber

/-- The value of a decimal digit of any script. -/
def digitValue? (character : Char) : Option Nat :=
  let code := character.toNat
  if code < 128 then
    if character.isDigit then some (code - 48) else none
  else (zeroDigits.find? fun first => first ≤ code && code < first + 10).map (code - ·)

/-- Whether a character is a decimal digit of some script. -/
def isDigit (character : Char) : Bool :=
  (digitValue? character).isSome

end Text
end RequestFlow
