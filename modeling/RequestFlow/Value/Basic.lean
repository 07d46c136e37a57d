import RequestFlow.Assoc
import RequestFlow.Numeral.Shortest

/-!
# Values

The data that documents, requests and node outputs are made of: the values of JSON, with whole
numbers and doubles kept apart, and besides them tuples, objects whose keys need not be texts, and
predicates that the host program supplies under a name.

Equality of values is equality of what they denote: a truth value is the number one or zero, a whole
number may equal a double, and objects are equal without regard to the order of their fields.
-/

namespace RequestFlow

/-- A key of an object. -/
inductive Key
  | null
  | bool (flag : Bool)
  | int (number : Int)
  | float (number : Double)
  | text (content : String)
  | tuple (items : List Key)
  deriving Repr

/-- A piece of data. -/
inductive Value
  | null
  | bool (flag : Bool)
  | int (number : Int)
  | float (number : Double)
  | text (content : String)
  | list (items : List Value)
  | tuple (items : List Value)
  | object (fields : List (Key × Value))
  | predicate (name : String)
  deriving Repr, Inhabited

/-- The sorts of data. -/
inductive Kind
  | null
  | bool
  | int
  | float
  | text
  | list
  | tuple
  | object
  | predicate
  deriving DecidableEq, Repr

/-- The word for a sort of data in messages. -/
def Kind.name : Kind → String
  | .null => "NoneType"
  | .bool => "bool"
  | .int => "int"
  | .float => "float"
  | .text => "str"
  | .list => "list"
  | .tuple => "tuple"
  | .object => "dict"
  | .predicate => "function"

namespace Key

/-- A number as a key: its whole value or its double. -/
def number? : Key → Option (Int ⊕ Double)
  | .bool flag => some (.inl (if flag then 1 else 0))
  | .int number => some (.inl number)
  | .float number => some (.inr number)
  | _ => none

/-- Whether two numbers denote the same number. -/
def sameNumber : Int ⊕ Double → Int ⊕ Double → Bool
  | .inl first, .inl second => first == second
  | .inl first, .inr second => second.toInt? == some first
  | .inr first, .inl second => first.toInt? == some second
  | .inr first, .inr second => first.same second

mutual

/-- Whether two keys denote the same key. -/
def same : Key → Key → Bool
  | .null, .null => true
  | .text first, .text second => first == second
  | .tuple first, .tuple second => sameAll first second
  | first, second =>
    match first.number?, second.number? with
    | some firstNumber, some secondNumber => sameNumber firstNumber secondNumber
    | _, _ => false

/-- Whether two lists of keys agree entry by entry. -/
def sameAll : List Key → List Key → Bool
  | [], [] => true
  | first :: firsts, second :: seconds => same first second && sameAll firsts seconds
  | _, _ => false

end

instance : BEq Key := ⟨same⟩

mutual

/-- A key as a value. -/
def toValue : Key → Value
  | .null => .null
  | .bool flag => .bool flag
  | .int number => .int number
  | .float number => .float number
  | .text content => .text content
  | .tuple items => .tuple (toValues items)

/-- A list of keys as values. -/
def toValues : List Key → List Value
  | [] => []
  | item :: rest => toValue item :: toValues rest

end

@[simp] theorem text_beq_text (first second : String) :
    ((Key.text first == Key.text second) : Bool) = (first == second) := by
  simp [BEq.beq, same]

end Key

/-- The fields of an object. -/
abbrev Fields := Assoc Key Value

namespace Value

/-- The sort of a value. -/
def kind : Value → Kind
  | .null => .null
  | .bool _ => .bool
  | .int _ => .int
  | .float _ => .float
  | .text _ => .text
  | .list _ => .list
  | .tuple _ => .tuple
  | .object _ => .object
  | .predicate _ => .predicate

mutual

/-- A value as a key; lists, objects and what holds them are none. -/
def toKey? : Value → Option Key
  | .null => some .null
  | .bool flag => some (.bool flag)
  | .int number => some (.int number)
  | .float number => some (.float number)
  | .text content => some (.text content)
  | .tuple items => (toKeys? items).map .tuple
  | .list _ => none
  | .object _ => none
  | .predicate _ => none

/-- A list of values as keys. -/
def toKeys? : List Value → Option (List Key)
  | [] => some []
  | item :: rest =>
    match toKey? item, toKeys? rest with
    | some key, some keys => some (key :: keys)
    | _, _ => none

end

/-- The sort of the innermost part that keeps a value from being a key. -/
def unkeyableKind : Value → Kind
  | .tuple items => unkeyableIn items
  | value => value.kind
where
  /-- The sort of the first item that is no key. -/
  unkeyableIn : List Value → Kind
    | [] => .tuple
    | item :: rest => if item.toKey?.isSome then unkeyableIn rest else unkeyableKind item

/-- A number that a value is, as a whole number or a double. -/
def number? : Value → Option (Int ⊕ Double)
  | .bool flag => some (.inl (if flag then 1 else 0))
  | .int number => some (.inl number)
  | .float number => some (.inr number)
  | _ => none

mutual

/-- Whether two values denote the same. -/
def same : Value → Value → Bool
  | .null, .null => true
  | .text first, .text second => first == second
  | .list first, .list second => sameAll first second
  | .tuple first, .tuple second => sameAll first second
  | .object first, .object second => first.length == second.length && sameFields first second
  | .predicate first, .predicate second => first == second
  | first, second =>
    match first.number?, second.number? with
    | some firstNumber, some secondNumber => Key.sameNumber firstNumber secondNumber
    | _, _ => false

/-- Whether two lists agree entry by entry. -/
def sameAll : List Value → List Value → Bool
  | [], [] => true
  | first :: firsts, second :: seconds => same first second && sameAll firsts seconds
  | _, _ => false

/-- Whether every field of the first list is a field of the second with the same value. -/
def sameFields : List (Key × Value) → List (Key × Value) → Bool
  | [], _ => true
  | (key, value) :: rest, others =>
    (match Assoc.get? key others with
      | some other => same value other
      | none => false) && sameFields rest others

end

/-- Only a text denotes the same as a text, and it is then that text. -/
theorem same_text_iff
    {value : Value}
    {content : String} :
    value.same (.text content) = true ↔ value = .text content := by
  cases value <;> simp [same, number?]

/-- Whether a value counts as true: null, zero and whatever is empty do not. -/
def isTruthy : Value → Bool
  | .null => false
  | .bool flag => flag
  | .int number => number != 0
  | .float number => number.isNonzero
  | .text content => content != ""
  | .list items => !items.isEmpty
  | .tuple items => !items.isEmpty
  | .object fields => !fields.isEmpty
  | .predicate _ => true

/-- Whether a value is null. -/
def isNull : Value → Bool
  | .null => true
  | _ => false

/-- A value, or nothing if it is null. -/
def nonNull? : Value → Option Value
  | .null => none
  | value => some value

/-- The first value if it counts as true, and the second otherwise. -/
def orElse (value otherwise : Value) : Value :=
  if value.isTruthy then value else otherwise

/-- A list of texts. -/
def texts (items : List String) : Value :=
  .list (items.map .text)

end Value

namespace Fields

/-- Fields whose keys are texts. -/
def named (fields : List (String × Value)) : Fields :=
  fields.map fun field => (.text field.1, field.2)

/-- The value of a field whose key is a text, and null without one. -/
def get (name : String) (fields : Fields) : Value :=
  (Assoc.get? (.text name) fields).getD .null

end Fields

/-- An object whose keys are texts. -/
def Value.record (fields : List (String × Value)) : Value :=
  .object (Fields.named fields)

end RequestFlow
