import RequestFlow.Graph.Entry
import RequestFlow.Json.Printer
import RequestFlow.Logging.Record

/-!
# Log records as lines of JSON

A line of JSON holds the fields of every line, then those of the trace, then those that the record
adds; a later field replaces an earlier one of its name. Colours are taken out, since they mean
nothing there. The message may have halves of surrogate pairs, which are written as escapes.
-/

namespace RequestFlow
namespace Log

/-- What a line of JSON says under a name. -/
inductive Member
  | given (value : Value)
  | wording (message : List Text.Point)

/-- A point as it stands in a line of JSON. -/
def escapePoint : Text.Point → List Char
  | .character character => Json.escape true character
  | .half index => Json.unitEscape (Text.firstHalf + index)

/-- What stands in a line of JSON for a member. -/
def Member.render : Member → List Char
  | .given value => Json.renderAt Json.asciiSpaced 1 value
  | .wording message => '"' :: message.flatMap escapePoint ++ ['"']

/-- Whether a member has an object inside with a tuple for a key. -/
def Member.hasTupleKey : Member → Bool
  | .given value => Json.hasTupleKey value
  | .wording _ => false

/-- A member with its name. -/
def renderMember (name : String) (member : Member) : List Char :=
  Json.textLiteral true name.toList ++ Json.asciiSpaced.keySeparator ++ member.render

/-- Members as an object of JSON. -/
def renderEntry : Assoc String Member → List Char
  | [] => ['\x7b', '\x7d']
  | (name, member) :: rest =>
    '\x7b' :: renderMember name member ++
      rest.flatMap (fun field =>
        Json.asciiSpaced.itemSeparator ++ renderMember field.1 field.2) ++ ['\x7d']

/-- The fields of every line, for a record with a message. -/
def Record.commonFields (record : Record) (time : String) (message : List Text.Point) :
    Assoc String Member :=
  [("timestamp", .given (.text time)), ("level", .given (.text (lowerCase record.level))),
    ("logger", .given (.text record.logger)), ("message", .wording (plainMessage message))]

/-- The field that says what failed, if something did. -/
def Record.failureField (record : Record) : Assoc String Member :=
  match record.failure with
  | none => []
  | some failure => [("exception", .given (.text (withoutColours failure.text)))]

/-- Fields that are values as members of a line. -/
def members (fields : Assoc String Value) : Assoc String Member :=
  fields.map fun field => (field.1, .given field.2)

/-- The members of the line for a record with a message. -/
def Record.entry (record : Record) (time : String) (message : List Text.Point) (trace : Trace) :
    Assoc String Member :=
  let traced := Assoc.merge (record.commonFields time message) (members trace)
  Assoc.merge (Assoc.merge traced (members record.added)) record.failureField

/-- The line of JSON for a record. -/
def Record.structuredLine (record : Record) (time : String) (trace : Trace) :
    Except Fault String := do
  let entry := record.entry time (← record.message) trace
  if entry.any (·.2.hasTupleKey) then .error (.keyNotJson .tuple)
  else .ok (String.ofList (renderEntry entry))

end Log
end RequestFlow
