import RequestFlow.Value.Basic
import RequestFlow.Text.Quoted

/-!
# The text of a value

A text stands for itself; every other value is written in a notation of its own, with quoted texts
inside lists and objects, `None` for null and a trailing comma in a tuple of one item.
-/

namespace RequestFlow

open Text

/-- The text of a whole number. -/
def intText (number : Int) : List Char :=
  if number < 0 then '-' :: Nat.toDigits 10 number.natAbs else Nat.toDigits 10 number.natAbs

/-- The text of a truth value. -/
def boolText (flag : Bool) : List Char :=
  (if flag then "True" else "False").toList

/-- Parts of a text with a separator between them. -/
def joinWith (separator : List Char) : List (List Char) → List Char
  | [] => []
  | [part] => part
  | part :: rest => part ++ separator ++ joinWith separator rest

/-- The text of a tuple with the given items. -/
def tupleText : List (List Char) → List Char
  | [single] => '(' :: single ++ [',', ')']
  | items => '(' :: joinWith [',', ' '] items ++ [')']

mutual

/-- A key as it is written inside an object. -/
def Key.written : Key → List Char
  | .null => "None".toList
  | .bool flag => boolText flag
  | .int number => intText number
  | .float number => number.text Double.plain
  | .text content => quoted content.toList
  | .tuple items => tupleText (Key.writtenAll items)

/-- The items of a tuple as they are written. -/
def Key.writtenAll : List Key → List (List Char)
  | [] => []
  | item :: rest => item.written :: Key.writtenAll rest

end

namespace Value

mutual

/-- A value as it is written inside a list or an object. -/
def written : Value → List Char
  | .null => "None".toList
  | .bool flag => boolText flag
  | .int number => intText number
  | .float number => number.text Double.plain
  | .text content => quoted content.toList
  | .list items => '[' :: joinWith [',', ' '] (writtenAll items) ++ [']']
  | .tuple items => tupleText (writtenAll items)
  | .object fields => '\x7b' :: joinWith [',', ' '] (writtenFields fields) ++ ['\x7d']
  | .predicate name => "<function ".toList ++ name.toList ++ ['>']

/-- The items of a list as they are written. -/
def writtenAll : List Value → List (List Char)
  | [] => []
  | item :: rest => written item :: writtenAll rest

/-- The fields of an object as they are written. -/
def writtenFields : List (Key × Value) → List (List Char)
  | [] => []
  | (key, value) :: rest => (key.written ++ [':', ' '] ++ written value) :: writtenFields rest

end

/-- The text of a value on its own. -/
def display : Value → String
  | .text content => content
  | value => String.ofList value.written

@[simp] theorem display_text (content : String) : (Value.text content).display = content := rfl

end Value

/-- A text between quotes. -/
def quotedText (content : String) : String :=
  String.ofList (quoted content.toList)

end RequestFlow
