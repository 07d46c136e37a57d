/-!
# UTF-8

Bytes are decoded sequence by sequence. Where no well-formed sequence stands, the longest run of
bytes that could have begun one is an error of its own; a lenient reader puts the replacement
character in its place, and a strict one refuses the whole text.
-/

namespace RequestFlow
namespace Text

/-- The bytes of a character. -/
def encodeChar (character : Char) : List UInt8 :=
  let code := character.toNat
  if code < 0x80 then [.ofNat code]
  else if code < 0x800 then [.ofNat (0xC0 + code / 64), .ofNat (0x80 + code % 64)]
  else if code < 0x10000 then
    [.ofNat (0xE0 + code / 4096), .ofNat (0x80 + code / 64 % 64), .ofNat (0x80 + code % 64)]
  else
    [.ofNat (0xF0 + code / 262144), .ofNat (0x80 + code / 4096 % 64),
      .ofNat (0x80 + code / 64 % 64), .ofNat (0x80 + code % 64)]

/-- The bytes of a text. -/
def encodeUtf8 (text : List Char) : List UInt8 :=
  text.flatMap encodeChar

/-- The number of bytes after a first byte, the bounds of the second byte, and the bits of the first
one; none if no sequence begins so. -/
def sequenceShape? (first : Nat) : Option (Nat × Nat × Nat × Nat) :=
  if first < 0x80 then some (0, 0, 0, first)
  else if first < 0xC2 then none
  else if first < 0xE0 then some (1, 0x80, 0xBF, first - 0xC0)
  else if first < 0xF0 then
    some (2, if first = 0xE0 then 0xA0 else 0x80, if first = 0xED then 0x9F else 0xBF, first - 0xE0)
  else if first < 0xF5 then
    some (3, if first = 0xF0 then 0x90 else 0x80, if first = 0xF4 then 0x8F else 0xBF, first - 0xF0)
  else none

/-- Take the continuation bytes of a sequence, the first of which lies within the bounds: the code,
or nothing if one is missing, and the number of bytes taken. -/
def takeContinuation : (count low high code : Nat) → List UInt8 → Option Nat × Nat
  | 0, _, _, code, _ => (some code, 0)
  | _ + 1, _, _, _, [] => (none, 0)
  | count + 1, low, high, code, byte :: rest =>
    if low ≤ byte.toNat ∧ byte.toNat ≤ high then
      let (result, taken) := takeContinuation count 0x80 0xBF (64 * code + (byte.toNat - 0x80)) rest
      (result, taken + 1)
    else (none, 0)

/-- The sequence that begins with a byte: its character, or nothing if it is malformed, and the
number of bytes after the first that belong to it. -/
def takeSequence (first : UInt8) (rest : List UInt8) : Option Char × Nat :=
  match sequenceShape? first.toNat with
  | none => (none, 0)
  | some (count, low, high, bits) =>
    let (code, taken) := takeContinuation count low high bits rest
    (code.map Char.ofNat, taken)

/-- Decode bytes after passing over some that belong to a sequence decoded before. -/
def decodeAfter : (covered : Nat) → List UInt8 → List (Option Char)
  | _, [] => []
  | covered + 1, _ :: rest => decodeAfter covered rest
  | 0, byte :: rest =>
    let (character, taken) := takeSequence byte rest
    character :: decodeAfter taken rest

/-- Decode bytes, with the replacement character for each malformed sequence. -/
def decodeUtf8Lenient (bytes : List UInt8) : List Char :=
  (decodeAfter 0 bytes).map (·.getD (Char.ofNat 0xFFFD))

/-- What is wrong with a malformed sequence. -/
inductive Defect
  | noStart
  | noContinuation
  | cutOff
  deriving DecidableEq, Repr

/-- A malformed sequence in some bytes. -/
structure Flaw where
  /-- The number of bytes before the sequence. -/
  position : Nat
  /-- The bytes that could have begun a sequence, or the one byte that could not. -/
  bytes : List UInt8
  /-- What is wrong with the sequence. -/
  defect : Defect
  deriving DecidableEq, Repr

/-- What is wrong with a malformed sequence, by its first byte and the bytes that follow it. -/
def defectOf (first : UInt8) (following : List UInt8) : Defect :=
  if (sequenceShape? first.toNat).isNone then .noStart
  else if following.isEmpty then .cutOff
  else .noContinuation

/-- The first malformed sequence in bytes, of which some belong to a sequence decoded before. -/
def flawAfter? : (covered position : Nat) → List UInt8 → Option Flaw
  | _, _, [] => none
  | covered + 1, position, _ :: rest => flawAfter? covered (position + 1) rest
  | 0, position, byte :: rest =>
    match takeSequence byte rest with
    | (some _, taken) => flawAfter? taken (position + 1) rest
    | (none, taken) =>
      some ⟨position, byte :: rest.take taken, defectOf byte (rest.drop taken)⟩

/-- Decode bytes, none of which may be malformed. -/
def decodeUtf8 (bytes : List UInt8) : Except Flaw (List Char) :=
  match flawAfter? 0 0 bytes with
  | some flaw => .error flaw
  | none => .ok (decodeUtf8Lenient bytes)

end Text
end RequestFlow
