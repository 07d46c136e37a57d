import RequestFlow.Value.Text
import RequestFlow.Fault

/-!
# Writing JSON

A value is written as JSON in one of a few styles, which differ in the blanks after separators, in
indentation, and in whether characters beyond ASCII stand as they are. Keys that are numbers, truth
values or null are written as texts; a tuple is written as a list and cannot be a key.
-/

namespace RequestFlow
namespace Json

open Text

/-- How JSON is laid out. -/
structure Style where
  /-- What stands between items. -/
  itemSeparator : List Char
  /-- What stands between a key and its value. -/
  keySeparator : List Char
  /-- Whether characters beyond ASCII are written as escapes. -/
  asciiOnly : Bool
  /-- The width of an indentation, if every item has a line of its own. -/
  indent : Option Nat
  deriving DecidableEq, Repr

/-- No blanks, and every character as it is: the form in which a value is put into a text. -/
def compact : Style where
  itemSeparator := [',']
  keySeparator := [':']
  asciiOnly := false
  indent := none

/-- A blank after each separator, and every character as it is: the form of a response body. -/
def spaced : Style where
  itemSeparator := [',', ' ']
  keySeparator := [':', ' ']
  asciiOnly := false
  indent := none

/-- A blank after each separator, and ASCII alone: the form of a log line. -/
def asciiSpaced : Style where
  itemSeparator := [',', ' ']
  keySeparator := [':', ' ']
  asciiOnly := true
  indent := none

/-- One item to a line, indented by two: the form of a report. -/
def indented : Style where
  itemSeparator := [',']
  keySeparator := [':', ' ']
  asciiOnly := false
  indent := some 2

/-- The escape of a unit of sixteen bits. -/
def unitEscape (unit : Nat) : List Char :=
  '\\' :: 'u' :: hexText 4 unit

/-- A character as it stands in a JSON text. -/
def escape (asciiOnly : Bool) (character : Char) : List Char :=
  if character = '"' then ['\\', '"']
  else if character = '\\' then ['\\', '\\']
  else if character = '\n' then ['\\', 'n']
  else if character = '\r' then ['\\', 'r']
  else if character = '\t' then ['\\', 't']
  else if character = Char.ofNat 8 then ['\\', 'b']
  else if character = Char.ofNat 12 then ['\\', 'f']
  else if character.toNat < 32 then unitEscape character.toNat
  else if !asciiOnly || character.toNat < 127 then [character]
  else if character.toNat < 0x10000 then unitEscape character.toNat
  else
    let offset := character.toNat - 0x10000
    unitEscape (0xD800 + offset / 1024) ++ unitEscape (0xDC00 + offset % 1024)

/-- A text between double quotes. -/
def textLiteral (asciiOnly : Bool) (content : List Char) : List Char :=
  '"' :: content.flatMap (escape asciiOnly) ++ ['"']

/-- A double, with the words for what is no number. -/
def doubleLiteral : Double → List Char
  | .nan => "NaN".toList
  | .infinite negative => (if negative then "-Infinity" else "Infinity").toList
  | number => number.text Double.plain

/-- The text that stands for a key. -/
def keyName : Key → List Char
  | .null => "null".toList
  | .bool flag => (if flag then "true" else "false").toList
  | .int number => intText number
  | .float number => doubleLiteral number
  | .text content => content.toList
  | .tuple _ => []

/-- The line end and indentation before an item at a depth of nesting. -/
def Style.lineStart (style : Style) (depth : Nat) : List Char :=
  match style.indent with
  | none => []
  | some width => '\n' :: List.replicate (width * depth) ' '

mutual

/-- A value as JSON, at a depth of nesting. -/
def renderAt (style : Style) (depth : Nat) : Value → List Char
  | .null => "null".toList
  | .bool flag => (if flag then "true" else "false").toList
  | .int number => intText number
  | .float number => doubleLiteral number
  | .text content => textLiteral style.asciiOnly content.toList
  | .list [] => ['[', ']']
  | .list (item :: rest) =>
    '[' :: style.lineStart (depth + 1) ++ renderAt style (depth + 1) item ++
      renderItems style (depth + 1) rest ++ style.lineStart depth ++ [']']
  | .tuple [] => ['[', ']']
  | .tuple (item :: rest) =>
    '[' :: style.lineStart (depth + 1) ++ renderAt style (depth + 1) item ++
      renderItems style (depth + 1) rest ++ style.lineStart depth ++ [']']
  | .object [] => ['\x7b', '\x7d']
  | .object ((key, value) :: rest) =>
    '\x7b' :: style.lineStart (depth + 1) ++ textLiteral style.asciiOnly (keyName key) ++
      style.keySeparator ++ renderAt style (depth + 1) value ++
      renderFields style (depth + 1) rest ++ style.lineStart depth ++ ['\x7d']
  | .predicate name => textLiteral style.asciiOnly (Value.predicate name).display.toList

/-- Further items of a list, each after a separator. -/
def renderItems (style : Style) (depth : Nat) : List Value → List Char
  | [] => []
  | item :: rest =>
    style.itemSeparator ++ style.lineStart depth ++ renderAt style depth item ++
      renderItems style depth rest

/-- Further fields of an object, each after a separator. -/
def renderFields (style : Style) (depth : Nat) : List (Key × Value) → List Char
  | [] => []
  | (key, value) :: rest =>
    style.itemSeparator ++ style.lineStart depth ++ textLiteral style.asciiOnly (keyName key) ++
      style.keySeparator ++ renderAt style depth value ++ renderFields style depth rest

end

mutual

/-- Whether some object inside a value has a tuple for a key. -/
def hasTupleKey : Value → Bool
  | .list items => anyTupleKey items
  | .tuple items => anyTupleKey items
  | .object fields => fieldsTupleKey fields
  | _ => false

/-- Whether some item of a list has a tuple for a key. -/
def anyTupleKey : List Value → Bool
  | [] => false
  | item :: rest => hasTupleKey item || anyTupleKey rest

/-- Whether some key of a list of fields is a tuple, or some value has one inside. -/
def fieldsTupleKey : List (Key × Value) → Bool
  | [] => false
  | (key, value) :: rest =>
    (match key with
      | .tuple _ => true
      | _ => false) || hasTupleKey value || fieldsTupleKey rest

end

/-- A value as JSON. -/
def render (style : Style) (value : Value) : List Char :=
  renderAt style 0 value

/-- A value as JSON, unless a tuple is used as a key. -/
def write (style : Style) (value : Value) : Except Fault String :=
  if hasTupleKey value then .error (.keyNotJson .tuple)
  else .ok (String.ofList (render style value))

end Json
end RequestFlow
