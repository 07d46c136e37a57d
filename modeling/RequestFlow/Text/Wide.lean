import RequestFlow.Text.Utf8

/-!
# Units of two and four bytes

Texts whose characters are units of two bytes, with pairs of units for the characters that do not
fit one, or units of four bytes. A unit that is half a pair and stands alone is decoded as the
replacement character; units that are cut off or beyond the last character make the whole malformed.
-/

namespace RequestFlow
namespace Text

/-- The character that stands for what cannot be decoded. -/
def replacement : Char := Char.ofNat 0xFFFD

/-- Whether a code is the first half of a pair. -/
def isFirstHalf (code : Nat) : Bool :=
  0xD800 ≤ code && code ≤ 0xDBFF

/-- Whether a code is the second half of a pair. -/
def isSecondHalf (code : Nat) : Bool :=
  0xDC00 ≤ code && code ≤ 0xDFFF

/-- The number that bytes make up, the first being the highest. -/
def numberOfBytes (bytes : List UInt8) : Nat :=
  bytes.foldl (fun number byte => 256 * number + byte.toNat) 0

/-- The number that bytes make up in either order. -/
def unitOf (bigEndian : Bool) (bytes : List UInt8) : Nat :=
  numberOfBytes (if bigEndian then bytes else bytes.reverse)

/-- Bytes as units of two, unless one is left over. -/
def units16? (bigEndian : Bool) : List UInt8 → Option (List Nat)
  | [] => some []
  | [_] => none
  | first :: second :: rest =>
    (units16? bigEndian rest).map (unitOf bigEndian [first, second] :: ·)

/-- Bytes as units of four, unless some are left over. -/
def units32? (bigEndian : Bool) : List UInt8 → Option (List Nat)
  | [] => some []
  | first :: second :: third :: fourth :: rest =>
    (units32? bigEndian rest).map (unitOf bigEndian [first, second, third, fourth] :: ·)
  | _ => none

/-- The character of a code that is not part of a pair. -/
def charOfCode (code : Nat) : Char :=
  if isFirstHalf code || isSecondHalf code then replacement else Char.ofNat code

/-- Join the pairs among units of two bytes. -/
def joinPairs : List Nat → List Char
  | first :: second :: rest =>
    if isFirstHalf first && isSecondHalf second then
      Char.ofNat (0x10000 + 1024 * (first - 0xD800) + (second - 0xDC00)) :: joinPairs rest
    else charOfCode first :: joinPairs (second :: rest)
  | [last] => [charOfCode last]
  | [] => []

/-- Decode units of two bytes. -/
def decodeUtf16? (bigEndian : Bool) (bytes : List UInt8) : Option (List Char) :=
  (units16? bigEndian bytes).map joinPairs

/-- Decode units of four bytes. -/
def decodeUtf32? (bigEndian : Bool) (bytes : List UInt8) : Option (List Char) := do
  let codes ← units32? bigEndian bytes
  if codes.all (· ≤ 0x10FFFF) then some (codes.map charOfCode) else none

/-- Bytes in which every half of a pair that is written like a character is the replacement
character. -/
def replaceHalves : List UInt8 → List UInt8
  | 0xED :: second :: third :: rest =>
    if 0xA0 ≤ second ∧ second ≤ 0xBF ∧ 0x80 ≤ third ∧ third ≤ 0xBF then
      0xEF :: 0xBF :: 0xBD :: replaceHalves rest
    else 0xED :: replaceHalves (second :: third :: rest)
  | byte :: rest => byte :: replaceHalves rest
  | [] => []

/-- Decode bytes in which halves of pairs may be written like characters, or nothing if a sequence
is malformed. -/
def decodeUtf8Halves? (bytes : List UInt8) : Option (List Char) :=
  (decodeUtf8 (replaceHalves bytes)).toOption

end Text
end RequestFlow
