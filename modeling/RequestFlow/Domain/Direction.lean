import RequestFlow.Text.Mark

/-!
# Direction of writing

A label with characters written from right to left has to begin with a letter, end with a letter or
a digit, and must not mix directions or kinds of digits.
-/

namespace RequestFlow
namespace Domain

open Text

/-- The part that a character plays where directions meet. -/
inductive Direction
  | leftToRight
  | rightToLeft
  | arabicNumber
  | europeanNumber
  | mark
  | neutral
  deriving DecidableEq, Repr

/-- Letters that are written from right to left. -/
def rightToLeftLetters : CharSet := .read
  "5d0-5f4 620-64a 66e-66f 671-6d5 6e5-6e6 6ee-6ef 6fa-710 712-72f 74d-7a5 7b1-7ea 7f4-7f5
   800-815 81a 824 828 840-858 860-88e 8a0-8c9 fe73 10800-10a00 10a10-10a35 10a60-10ae4
   10b00-10d23 10e80-10ea9 10eb0-10f45 10f70-10f81 10fb0-10ff6 1e800-1e8c4 1e922-1e943
   1e94b-1e959"

/-- Digits that count as Arabic. -/
def arabicNumbers : CharSet := .read
  "660-669 10d30-10d39"

/-- Digits that count as European. -/
def europeanNumbers : CharSet := .read
  "30-39 6f0-6f9"

/-- Characters without a direction. -/
def neutrals : CharSet := .read
  "2d b7 2b9-2ba 2c6-2cf 2ec 375 200c-200d 2e2f 30fb a67f a717-a71f a788"

/-- Marks that are written from left to right like letters. -/
def directedMarks : CharSet := .read
  "cbf cc6 11a07-11a08 11c3f"

/-- The direction of a character of a label. -/
def direction (character : Char) : Direction :=
  if rightToLeftLetters.contains character then .rightToLeft
  else if arabicNumbers.contains character then .arabicNumber
  else if europeanNumbers.contains character then .europeanNumber
  else if neutrals.contains character then .neutral
  else if isNonspacingMark character && !directedMarks.contains character then .mark
  else .leftToRight

/-- The direction of the last character that is no mark. -/
def lastDirection? (directions : List Direction) : Option Direction :=
  (directions.filter (· != .mark)).getLast?

/-- Whether the directions of a label written from right to left fit together. -/
def fitsRightToLeft (directions : List Direction) : Bool :=
  !directions.contains .leftToRight &&
    (match lastDirection? directions with
      | some .rightToLeft | some .europeanNumber | some .arabicNumber => true
      | _ => false) &&
    !(directions.contains .europeanNumber && directions.contains .arabicNumber)

/-- Whether the directions of a label written from left to right fit together. -/
def fitsLeftToRight (directions : List Direction) : Bool :=
  !directions.contains .rightToLeft && !directions.contains .arabicNumber &&
    (match lastDirection? directions with
      | some .leftToRight | some .europeanNumber => true
      | _ => false)

/-- Whether the directions of the characters of a label fit together. Where nothing is written from
right to left they do. -/
def directionsFit (label : List Char) : Bool :=
  let directions := label.map direction
  if directions.contains .rightToLeft || directions.contains .arabicNumber then
    match directions with
    | .rightToLeft :: _ => fitsRightToLeft directions
    | .leftToRight :: _ => fitsLeftToRight directions
    | _ => false
  else true

end Domain
end RequestFlow
