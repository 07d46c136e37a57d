import RequestFlow.Numeral.Double
import RequestFlow.Text.Blank
import RequestFlow.Text.Digit

/-!
# Reading numbers from text

Whole numbers may be written with digits of any script and with single underscores between digits.
Decimal numerals have an optional fraction and exponent. Blanks around a number are ignored, except
the information separators of ASCII.
-/

namespace RequestFlow
namespace Numeral

open Text

/-- The greatest number of digits that is converted between text and whole numbers. -/
def digitLimit : Nat := 4300

/-- Why a text is not read as a whole number. -/
inductive IntegerFault
  | malformed
  | tooManyDigits (count : Nat)
  deriving DecidableEq, Repr

/-- The blanks of ASCII: tab, the line ends, vertical tab, form feed and space. -/
def isAsciiBlank (character : Char) : Bool :=
  character == ' ' || (9 ≤ character.toNat && character.toNat ≤ 13)

/-- The digit of ASCII with a value below ten. -/
def asciiDigit (value : Nat) : Char :=
  Char.ofNat (value + '0'.toNat)

/-- A character as one of ASCII, if it is a digit or a blank. -/
def toAsciiChar (character : Char) : Char :=
  if character.toNat < 128 then character
  else if isBlank character then ' '
  else match digitValue? character with
    | some value => asciiDigit value
    | none => character

/-- A text with its digits and blanks beyond ASCII replaced by those of ASCII. -/
def toAscii (text : List Char) : List Char :=
  text.map toAsciiChar

/-- A text without the ASCII blanks around it. -/
def trimAscii (text : List Char) : List Char :=
  dropEndWhile isAsciiBlank (text.dropWhile isAsciiBlank)

/-- An optional sign, and whether it is a minus. -/
def takeSign : List Char → Bool × List Char
  | '-' :: rest => (true, rest)
  | '+' :: rest => (false, rest)
  | text => (false, text)

/-- The number that a run of ASCII digits denotes. -/
def digitsValue (digits : List Char) : Nat :=
  digits.foldl (fun value digit => 10 * value + (digit.toNat - '0'.toNat)) 0

/-- Whether the underscores of a digit run stand singly and between digits. -/
def underscoresSeparate (run : List Char) : Bool :=
  (splitAt '_' run).all (· ≠ [])

/-- Read a whole number. The count of digits is checked before what follows them. -/
def readInteger (text : List Char) : Except IntegerFault Int :=
  let (negative, body) := takeSign (trimAscii (toAscii text))
  let run := body.takeWhile fun character => character.isDigit || character == '_'
  let digits := run.filter Char.isDigit
  if !underscoresSeparate run then .error .malformed
  else if digitLimit < digits.length then .error (.tooManyDigits digits.length)
  else if digits.isEmpty || run.length < body.length then .error .malformed
  else .ok (if negative then -(digitsValue digits : Int) else digitsValue digits)

/-- A decimal numeral: a sign, the digits before and after the point, and an exponent. -/
structure Decimal where
  /-- Whether there is a minus sign. -/
  negative : Bool
  /-- The digits before the point. -/
  whole : List Nat
  /-- The digits after the point. -/
  fraction : List Nat
  /-- The exponent. -/
  exponent : Int
  deriving DecidableEq, Repr

/-- The longest run of digits of any script, as values, and what follows it. -/
def takeDigits : List Char → List Nat × List Char
  | [] => ([], [])
  | character :: rest =>
    match digitValue? character with
    | none => ([], character :: rest)
    | some value =>
      let (values, after) := takeDigits rest
      (value :: values, after)

/-- The number that a list of digit values denotes. -/
def valuesNumber (values : List Nat) : Nat :=
  values.foldl (fun number value => 10 * number + value) 0

/-- An exponent, if a whole one stands here. -/
def takeExponent : List Char → Int × List Char
  | mark :: rest =>
    if mark == 'e' || mark == 'E' then
      let (negative, body) := takeSign rest
      match takeDigits body with
      | ([], _) => (0, mark :: rest)
      | (values, after) =>
        (if negative then -(valuesNumber values : Int) else valuesNumber values, after)
    else (0, mark :: rest)
  | [] => (0, [])

/-- The decimal numeral at the start of a text, and what follows it. -/
def takeDecimal? (text : List Char) : Option (Decimal × List Char) :=
  let (negative, body) := takeSign text
  let (whole, afterWhole) := takeDigits body
  let (fraction, afterFraction) := match afterWhole with
    | '.' :: rest =>
      let (values, after) := takeDigits rest
      if whole.isEmpty && values.isEmpty then ([], afterWhole) else (values, after)
    | _ => ([], afterWhole)
  if whole.isEmpty && fraction.isEmpty then none
  else
    let (exponent, after) := takeExponent afterFraction
    some (⟨negative, whole, fraction, exponent⟩, after)

/-- The double nearest to a numeral. -/
def Decimal.toDouble (numeral : Decimal) : Double :=
  .ofDecimal numeral.negative (valuesNumber (numeral.whole ++ numeral.fraction))
    (numeral.exponent - numeral.fraction.length)

/-- Whether a text is one decimal numeral, with blanks of any kind around it. -/
def isDecimal (text : List Char) : Bool :=
  match takeDecimal? (trimStart text) with
  | some (_, after) => after.all isBlank
  | none => false

/-- Read a decimal numeral as a double. -/
def readDouble? (text : List Char) : Option Double :=
  match takeDecimal? (trimAscii (toAscii text)) with
  | some (numeral, []) => some numeral.toDouble
  | _ => none

end Numeral
end RequestFlow
