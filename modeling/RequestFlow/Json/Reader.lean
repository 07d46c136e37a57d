import RequestFlow.Value.Basic
import RequestFlow.Numeral.Reading

/-!
# Reading JSON

JSON text is read into a value. Beyond the standard the words `NaN`, `Infinity` and `-Infinity` are
numbers, and of equal keys of an object the last value counts, in the place of the first. Control
characters inside a text are refused, and so are whole numbers with more digits than the conversion
limit. Half of a surrogate pair that stands alone reads as the replacement character.
-/

namespace RequestFlow
namespace Json

open Numeral Text

/-- Why a text is not read as JSON. -/
inductive ReadFault
  | malformed
  | tooManyDigits (count : Nat)
  deriving DecidableEq, Repr

/-- The blanks that may stand between the tokens of JSON. -/
def isSpace (character : Char) : Bool :=
  character == ' ' || character == '\t' || character == '\n' || character == '\r'

/-- A text without its leading blanks. -/
def skipSpace (input : List Char) : List Char :=
  input.dropWhile isSpace

/-- The code of an escape of four hexadecimal digits. -/
def readUnit (first second third fourth : Char) : Option Nat :=
  match hexDigit? first, hexDigit? second, hexDigit? third, hexDigit? fourth with
  | some a, some b, some c, some d => some (4096 * a + 256 * b + 16 * c + d)
  | _, _, _, _ => none

/-- Whether a code is the first half of a surrogate pair. -/
def isHighSurrogate (code : Nat) : Bool :=
  0xD800 ≤ code && code ≤ 0xDBFF

/-- Whether a code is the second half of a surrogate pair. -/
def isLowSurrogate (code : Nat) : Bool :=
  0xDC00 ≤ code && code ≤ 0xDFFF

/-- The character that two halves of a surrogate pair make up. -/
def joinSurrogates (high low : Nat) : Char :=
  Char.ofNat (0x10000 + 1024 * (high - 0xD800) + (low - 0xDC00))

/-- The character of a code that stands alone. Half of a surrogate pair is no character, and is read
as the replacement character. -/
def loneUnit (code : Nat) : Char :=
  if isHighSurrogate code || isLowSurrogate code then Char.ofNat 0xFFFD else Char.ofNat code

/-- The character that a letter after a backslash stands for. -/
def simpleEscape? (letter : Char) : Option Char :=
  if letter = '"' then some '"'
  else if letter = '\\' then some '\\'
  else if letter = '/' then some '/'
  else if letter = 'b' then some (Char.ofNat 8)
  else if letter = 'f' then some (Char.ofNat 12)
  else if letter = 'n' then some '\n'
  else if letter = 'r' then some '\r'
  else if letter = 't' then some '\t'
  else none

/-- Put characters in front of what was read after them. -/
def prepend (characters : List Char) :
    Except ReadFault (List Char × List Char) → Except ReadFault (List Char × List Char)
  | .ok (content, rest) => .ok (characters ++ content, rest)
  | .error fault => .error fault

/-- What the first half of a surrogate pair reads as when no second half follows. -/
def flush : Option Nat → List Char
  | none => []
  | some high => [loneUnit high]

/-- The rest of a text after its opening quote, up to the closing one. `pending` is the first half
of a surrogate pair that was read just before. -/
def readText : (pending : Option Nat) → List Char → Except ReadFault (List Char × List Char)
  | _, [] => .error .malformed
  | pending, '"' :: rest => .ok (flush pending, rest)
  | pending, '\\' :: 'u' :: a :: b :: c :: d :: rest =>
    match readUnit a b c d with
    | none => .error .malformed
    | some code =>
      match pending with
      | some high =>
        if isLowSurrogate code then prepend [joinSurrogates high code] (readText none rest)
        else if isHighSurrogate code then prepend [loneUnit high] (readText (some code) rest)
        else prepend [loneUnit high, loneUnit code] (readText none rest)
      | none =>
        if isHighSurrogate code then readText (some code) rest
        else prepend [loneUnit code] (readText none rest)
  | pending, '\\' :: letter :: rest =>
    match simpleEscape? letter with
    | none => .error .malformed
    | some character => prepend (flush pending ++ [character]) (readText none rest)
  | pending, character :: rest =>
    if character.toNat < 32 ∨ character = '\\' then .error .malformed
    else prepend (flush pending ++ [character]) (readText none rest)

/-- The digits at the start of a text, and the rest. -/
def splitDigits (input : List Char) : List Char × List Char :=
  (input.takeWhile Char.isDigit, input.dropWhile Char.isDigit)

/-- The digits of a whole number at the start of a text, and the rest. A leading zero is a number of
its own. -/
def splitWhole (input : List Char) : List Char × List Char :=
  match input with
  | '0' :: rest => (['0'], rest)
  | _ => splitDigits input

/-- The digits of a fraction after a point; none if no digit follows the point. -/
def readFraction? : List Char → Option (List Char × List Char)
  | '.' :: rest =>
    match splitDigits rest with
    | ([], _) => none
    | (digits, after) => some (digits, after)
  | _ => none

/-- An exponent; none if no digit follows the mark. -/
def readExponent? : List Char → Option (Int × List Char)
  | mark :: rest =>
    if mark = 'e' ∨ mark = 'E' then
      let (negative, body) := takeSign rest
      match splitDigits body with
      | ([], _) => none
      | (digits, after) =>
        some (if negative then -(digitsValue digits : Int) else digitsValue digits, after)
    else none
  | [] => none

/-- A number without its sign. A fraction or an exponent makes the number a double. -/
def readNumber (negative : Bool) (input : List Char) : Except ReadFault (Value × List Char) :=
  let (whole, afterWhole) := splitWhole input
  if whole.isEmpty then .error .malformed
  else
    let fraction := readFraction? afterWhole
    let afterFraction := (fraction.map (·.2)).getD afterWhole
    let exponent := readExponent? afterFraction
    if fraction.isNone ∧ exponent.isNone then
      if digitLimit < whole.length then .error (.tooManyDigits whole.length)
      else
        let size : Int := digitsValue whole
        .ok (.int (if negative then -size else size), afterWhole)
    else
      let places := (fraction.map (·.1)).getD []
      let power := (exponent.map (·.1)).getD 0
      .ok (.float (.ofDecimal negative (digitsValue (whole ++ places)) (power - places.length)),
        (exponent.map (·.2)).getD afterFraction)

/-- The rest of a text after a word that it starts with. -/
def dropWord? : (word input : List Char) → Option (List Char)
  | [], input => some input
  | _ :: _, [] => none
  | expected :: word, character :: input =>
    if expected = character then dropWord? word input else none

/-- The words that stand for a value. -/
def words : List (List Char × Value) :=
  [("null".toList, .null), ("true".toList, .bool true), ("false".toList, .bool false),
    ("NaN".toList, .float .nan), ("Infinity".toList, .float (.infinite false)),
    ("-Infinity".toList, .float (.infinite true))]

/-- A word or a number. -/
def readScalar (input : List Char) : Except ReadFault (Value × List Char) :=
  match words.findSome? fun entry => (dropWord? entry.1 input).map fun rest => (entry.2, rest) with
  | some found => .ok found
  | none =>
    match input with
    | '-' :: rest => readNumber true rest
    | _ => readNumber false input

mutual

/-- The value at the start of a text, and the rest. The number bounds the nesting of calls. -/
def readValue : Nat → List Char → Except ReadFault (Value × List Char)
  | 0, _ => .error .malformed
  | _ + 1, '"' :: rest =>
    match readText none rest with
    | .ok (content, after) => .ok (.text (String.ofList content), after)
    | .error fault => .error fault
  | fuel + 1, '[' :: rest =>
    match skipSpace rest with
    | ']' :: after => .ok (.list [], after)
    | body =>
      match readItems fuel body with
      | .ok (items, after) => .ok (.list items, after)
      | .error fault => .error fault
  | fuel + 1, '\x7b' :: rest =>
    match skipSpace rest with
    | '\x7d' :: after => .ok (.object [], after)
    | body =>
      match readFields fuel body with
      | .ok (fields, after) => .ok (.object (Assoc.merge [] fields), after)
      | .error fault => .error fault
  | _, input => readScalar input

/-- The items of a list from the first one to the closing bracket. -/
def readItems : Nat → List Char → Except ReadFault (List Value × List Char)
  | 0, _ => .error .malformed
  | fuel + 1, input =>
    match readValue fuel input with
    | .error fault => .error fault
    | .ok (item, after) =>
      match skipSpace after with
      | ']' :: rest => .ok ([item], rest)
      | ',' :: rest =>
        match readItems fuel (skipSpace rest) with
        | .ok (items, final) => .ok (item :: items, final)
        | .error fault => .error fault
      | _ => .error .malformed

/-- The fields of an object from the first key to the closing brace. -/
def readFields : Nat → List Char → Except ReadFault (List (Key × Value) × List Char)
  | 0, _ => .error .malformed
  | fuel + 1, '"' :: input =>
    match readText none input with
    | .error fault => .error fault
    | .ok (name, afterName) =>
      match skipSpace afterName with
      | ':' :: afterColon =>
        match readValue fuel (skipSpace afterColon) with
        | .error fault => .error fault
        | .ok (value, afterValue) =>
          match skipSpace afterValue with
          | '\x7d' :: rest => .ok ([(.text (String.ofList name), value)], rest)
          | ',' :: rest =>
            match readFields fuel (skipSpace rest) with
            | .ok (fields, final) => .ok ((.text (String.ofList name), value) :: fields, final)
            | .error fault => .error fault
          | _ => .error .malformed
      | _ => .error .malformed
  | _ + 1, _ => .error .malformed

end

/-- Read a whole text as one value, with blanks around it. Two nested calls at most consume no
character, so twice the length of the text bounds their number. -/
def readChars (input : List Char) : Except ReadFault Value :=
  match readValue (2 * input.length + 2) (skipSpace input) with
  | .error fault => .error fault
  | .ok (value, rest) => if (skipSpace rest).isEmpty then .ok value else .error .malformed

/-- Read a text as one value. -/
def read (input : String) : Except ReadFault Value :=
  readChars input.toList

end Json
end RequestFlow
