import RequestFlow.Text.CharSet
import RequestFlow.Text.Utf8

/-!
# Percent encoding

In a path a percent sign and two hexadecimal digits stand for a byte. Decoding reads each run of
ASCII characters as bytes and these as UTF-8; malformed sequences become the replacement character,
and a percent sign that no two digits follow stands for itself.
-/

namespace RequestFlow
namespace Text

/-- The byte that an escape at the start of a text stands for. -/
def escapedByte? : List Char → Option UInt8
  | '%' :: high :: low :: _ =>
    match hexDigit? high, hexDigit? low with
    | some first, some second => some (.ofNat (16 * first + second))
    | _, _ => none
  | _ => none

/-- The bytes that a run of ASCII characters stands for, after passing over characters that belong
to an escape read before. -/
def percentBytesAfter : (covered : Nat) → List Char → List UInt8
  | _, [] => []
  | covered + 1, _ :: rest => percentBytesAfter covered rest
  | 0, character :: rest =>
    match escapedByte? (character :: rest) with
    | some byte => byte :: percentBytesAfter 2 rest
    | none => .ofNat character.toNat :: percentBytesAfter 0 rest

/-- The bytes that a run of ASCII characters stands for. -/
def percentBytes (text : List Char) : List UInt8 :=
  percentBytesAfter 0 text

/-- Decode a text whose leading ASCII characters, nearest first, are still to be read. -/
def percentDecodeAfter (pending : List Char) : List Char → List Char
  | [] => decodeUtf8Lenient (percentBytes pending.reverse)
  | character :: rest =>
    if character.toNat < 128 then percentDecodeAfter (character :: pending) rest
    else
      decodeUtf8Lenient (percentBytes pending.reverse) ++ character :: percentDecodeAfter [] rest

/-- Decode the percent escapes of a text. -/
def percentDecode (text : List Char) : List Char :=
  percentDecodeAfter [] text

/-- Characters that percent encoding leaves as they are. -/
def isUnreserved (character : Char) : Bool :=
  character.isAlphanum || character == '-' || character == '.' || character == '_' ||
    character == '~'

/-- A character with every byte written as an escape, unless it is unreserved. -/
def percentEncodeChar (character : Char) : List Char :=
  if isUnreserved character then [character]
  else (encodeChar character).flatMap fun byte =>
    let digits := (Nat.toDigits 16 byte.toNat).map Char.toUpper
    '%' :: (List.replicate (2 - digits.length) '0' ++ digits)

/-- A text with its reserved characters escaped. -/
def percentEncode (text : List Char) : List Char :=
  text.flatMap percentEncodeChar

end Text
end RequestFlow
