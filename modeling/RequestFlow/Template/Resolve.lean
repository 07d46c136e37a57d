import RequestFlow.Template.Reference
import RequestFlow.Flow.Memory
import RequestFlow.Json.Printer

/-!
# Putting recorded payloads into a configuration

Every text in a configuration has its references replaced by the text of what they reach. A
reference that reaches nothing stays as it is, and what is put in place of one is not searched for
references again. Everything but texts stays as it is, and so do the keys of objects.
-/

namespace RequestFlow

namespace Value

/-- The text of a value as it is put in place of a reference: compact JSON for lists and objects,
nothing for null and false, `1` for true, and a whole double of moderate size without its point. -/
def spliced : Value → Except Fault String
  | .null => .ok ""
  | .bool flag => .ok (if flag then "1" else "")
  | .float number =>
    match number.toInt? with
    | some whole =>
      if whole.natAbs < Nat.pow 10 15 then .ok (String.ofList (intText whole))
      else .ok (Value.float number).display
    | none => .ok (Value.float number).display
  | .list items => Json.write Json.compact (.list items)
  | .tuple items => Json.write Json.compact (.tuple items)
  | .object fields => Json.write Json.compact (.object fields)
  | value => .ok value.display

/-- A whole number written with ASCII digits alone; more digits than the conversion limit are a
fault. -/
def index? (segment : List Char) : Except Fault (Option Nat) :=
  if segment.isEmpty || !segment.all Char.isDigit then .ok none
  else if Numeral.digitLimit < segment.length then .error (.tooManyDigits segment.length)
  else .ok (some (Numeral.digitsValue segment))

/-- The part of a value that one segment of a path leads to: a field by its name or by its number,
or an item by its position. -/
def step (value : Value) (segment : List Char) : Except Fault (Option Value) :=
  match value with
  | .object fields =>
    match Assoc.get? (.text (String.ofList segment)) fields with
    | some found => .ok (some found)
    | none =>
      match index? segment with
      | .ok (some position) => .ok (Assoc.get? (.int position) fields)
      | .ok none => .ok none
      | .error fault => .error fault
  | .list items | .tuple items =>
    match index? segment with
    | .ok (some position) => .ok items[position]?
    | .ok none => .ok none
    | .error fault => .error fault
  | _ => .ok none

/-- The part of a value that a path leads to. -/
def follow (value : Value) : List (List Char) → Except Fault (Option Value)
  | [] => .ok (some value)
  | segment :: rest =>
    match value.step segment with
    | .error fault => .error fault
    | .ok none => .ok none
    | .ok (some part) => part.follow rest

end Value

namespace Template

/-- What a reference reaches, if it reaches anything. -/
def lookup (memory : Memory) (reference : Reference) : Except Fault (Option Value) :=
  match memory.output? (String.ofList reference.node) (.text (String.ofList reference.key)) with
  | none => .ok none
  | some payload => payload.follow reference.path

/-- The text that stands for a piece. -/
def resolvePiece (memory : Memory) : Piece → Except Fault (List Char)
  | .literal character => .ok [character]
  | .reference reference =>
    match lookup memory reference with
    | .error fault => .error fault
    | .ok none => .ok reference.source
    | .ok (some value) => value.spliced.map String.toList

/-- The text that stands for a sequence of pieces. -/
def resolvePieces (memory : Memory) : List Piece → Except Fault (List Char)
  | [] => .ok []
  | piece :: rest =>
    match resolvePiece memory piece with
    | .error fault => .error fault
    | .ok first =>
      match resolvePieces memory rest with
      | .error fault => .error fault
      | .ok others => .ok (first ++ others)

/-- A text with its references replaced. -/
def resolveText (memory : Memory) (text : String) : Except Fault String :=
  (resolvePieces memory (pieces text.toList)).map String.ofList

mutual

/-- A configuration with the references in its texts replaced. -/
def resolve (memory : Memory) : Value → Except Fault Value
  | .text content => (resolveText memory content).map .text
  | .list items => (resolveItems memory items).map .list
  | .tuple items => (resolveItems memory items).map .tuple
  | .object fields => (resolveFields memory fields).map .object
  | value => .ok value

/-- The items of a list with their references replaced. -/
def resolveItems (memory : Memory) : List Value → Except Fault (List Value)
  | [] => .ok []
  | item :: rest =>
    match resolve memory item with
    | .error fault => .error fault
    | .ok resolved =>
      match resolveItems memory rest with
      | .error fault => .error fault
      | .ok others => .ok (resolved :: others)

/-- The fields of an object with the references in their values replaced. -/
def resolveFields (memory : Memory) : List (Key × Value) → Except Fault (List (Key × Value))
  | [] => .ok []
  | (key, value) :: rest =>
    match resolve memory value with
    | .error fault => .error fault
    | .ok resolved =>
      match resolveFields memory rest with
      | .error fault => .error fault
      | .ok others => .ok ((key, resolved) :: others)

end

end Template
end RequestFlow
