import RequestFlow.Text.CharSet

/-!
# Labels in ASCII

A label with characters beyond ASCII is written in ASCII as its ASCII characters, a hyphen, and a
sequence of numbers that say which characters are to be inserted where. The numbers are written in a
base of thirty-six with digits whose weight adapts to the numbers before.
-/

namespace RequestFlow
namespace Domain

/-- The least digit that does not end a number at a position. -/
def threshold (position bias : Nat) : Nat :=
  min 26 (max 1 (36 * (position + 1) - bias))

/-- Scale a step down until it is small, and count thirty-six for each time. The number bounds the
times. -/
def scaleDown : Nat → Nat → Nat × Nat
  | 0, step => (0, step)
  | fuel + 1, step =>
    if 455 < step then
      let (count, small) := scaleDown fuel (step / 35)
      (count + 36, small)
    else (0, step)

/-- The bias after a step, for a text of the given length so far. -/
def adapt (step length : Nat) (atFront : Bool) : Nat :=
  let damped := if atFront then step / 700 else step / 2
  let (count, small) := scaleDown damped (damped + damped / length)
  count + 36 * small / (small + 38)

/-- The value of a digit: letters first, then the digits of ASCII. -/
def digitOf? (character : Char) : Option Nat :=
  if character.isLower then some (character.toNat - 'a'.toNat)
  else if character.isDigit then some (character.toNat - '0'.toNat + 26)
  else none

/-- The digit with a value. -/
def digitFor (value : Nat) : Char :=
  if value < 26 then Char.ofNat (value + 'a'.toNat) else Char.ofNat (value - 26 + '0'.toNat)

/-- Read a number: its value and what follows it. -/
def readStep? (bias position weight value : Nat) : List Char → Option (Nat × List Char)
  | [] => none
  | character :: rest =>
    match digitOf? character with
    | none => none
    | some digit =>
      let limit := threshold position bias
      if digit < limit then some (value + digit * weight, rest)
      else readStep? bias (position + 1) (weight * (36 - limit)) (value + digit * weight) rest

/-- Insert the characters that the numbers stand for into a text. The first number bounds their
count, `code` and `place` are where counting goes on. -/
def insertSteps? : Nat → (text : List Nat) → (code place bias : Nat) → (atFront : Bool) →
    List Char → Option (List Nat)
  | _, text, _, _, _, _, [] => some text
  | 0, _, _, _, _, _, _ :: _ => none
  | fuel + 1, text, code, place, bias, atFront, digits =>
    match readStep? bias 0 1 0 digits with
    | none => none
    | some (step, rest) =>
      let size := text.length + 1
      let code := code + (place + step) / size
      let place := (place + step) % size
      if 0x10FFFF < code then none
      else
        insertSteps? fuel (text.take place ++ code :: text.drop place) code (place + 1)
          (adapt step size atFront) false rest

/-- The parts of a text around its last hyphen; without one, all of it comes after. -/
def splitLastHyphen (text : List Char) : List Char × List Char :=
  let after := (text.reverse.takeWhile (· != '-')).reverse
  (text.take (text.length - after.length - 1), after)

/-- The text of a label that is written in ASCII. -/
def decodePunycode? (label : List Char) : Option (List Char) :=
  let (kept, digits) := splitLastHyphen label
  match insertSteps? digits.length (kept.map Char.toNat) 128 0 72 true digits with
  | some codes =>
    if codes.all fun code => code.isValidChar then some (codes.map Char.ofNat) else none
  | none => none

/-- Write a number. The first number bounds its digits. -/
def writeStep (bias : Nat) : Nat → (position value : Nat) → List Char
  | 0, _, _ => []
  | fuel + 1, position, value =>
    let limit := threshold position bias
    if value < limit then [digitFor value]
    else
      digitFor (limit + (value - limit) % (36 - limit)) ::
        writeStep bias fuel (position + 1) ((value - limit) / (36 - limit))

/-- What has been written of a label: the digits, latest first, the step counted since, the number
of characters that are in place, and the bias. -/
structure Progress where
  /-- The digits, latest first. -/
  digits : List Char
  /-- The step counted since the last digit. -/
  step : Nat
  /-- The number of characters that are in place. -/
  placed : Nat
  /-- The bias for the next step. -/
  bias : Nat
  /-- Whether no step has been written yet. -/
  atFront : Bool

/-- Count one character of the label while the characters with a code are placed. -/
def Progress.count (code : Nat) (progress : Progress) (character : Nat) : Progress :=
  if character < code then { progress with step := progress.step + 1 }
  else if character = code then
    { digits :=
        (writeStep progress.bias (progress.step + 1) 0 progress.step).reverse ++ progress.digits
      step := 0
      placed := progress.placed + 1
      bias := adapt progress.step (progress.placed + 1) progress.atFront
      atFront := false }
  else progress

/-- Place the characters with each of the codes, which ascend from the given one on. -/
def Progress.placeAll (codes : List Nat) : (start : Nat) → List Nat → Progress → Progress
  | _, [], progress => progress
  | start, code :: rest, progress =>
    let moved := { progress with step := progress.step + (code - start) * (progress.placed + 1) }
    let placed := codes.foldl (Progress.count code) moved
    placeAll codes (code + 1) rest { placed with step := placed.step + 1 }

/-- A label written in ASCII. -/
def encodePunycode (label : List Char) : List Char :=
  let codes := label.map Char.toNat
  let kept := label.filter fun character => character.toNat < 128
  let inserted := ((codes.filter (128 ≤ ·)).mergeSort (· ≤ ·)).eraseDups
  let progress := Progress.placeAll codes 128 inserted ⟨[], 0, kept.length, 72, true⟩
  (if kept.isEmpty then [] else kept ++ ['-']) ++ progress.digits.reverse

end Domain
end RequestFlow
