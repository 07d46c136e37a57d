import RequestFlow.Flow.Session
import RequestFlow.Logging.Ansi
import RequestFlow.Logging.Directive

/-!
# Log records and their lines for readers

A record has a message and fields of its own, and it is logged while a trace is set. For readers it
is written with a coloured level and a short note of where it belongs.
-/

namespace RequestFlow
namespace Log

/-- The word for the sort of a fault, and its wording. -/
structure Failure where
  /-- The word for the sort of the fault. -/
  sort : String
  /-- The wording of the fault. -/
  message : String

/-- Something to be logged: a message template with its arguments, the level, the name of the
logger, and what is known besides. -/
structure Record where
  /-- The message, with directives for arguments. -/
  template : String
  /-- The arguments of the message. -/
  arguments : List Value := []
  /-- The name of the level. -/
  level : String := "INFO"
  /-- The name of the logger. -/
  logger : String
  /-- The fields that are known besides. -/
  extras : Assoc String Value := []
  /-- What failed, if something did. -/
  failure : Option Failure := none

/-- A failure in one line, or more if its wording has more. -/
def Failure.text (failure : Failure) : String :=
  if failure.message = "" then failure.sort else failure.sort ++ ": " ++ failure.message

/-- The message of a record. -/
def Record.message (record : Record) : Except Fault (List Text.Point) :=
  expand record.template record.arguments

/-- A field that a record adds, unless it is null. -/
def Record.extra? (record : Record) (name : String) : Option Value :=
  (record.extras.get? name).bind Value.nonNull?

/-- The fields that a record may add to a line of JSON. -/
def extraFields : List String :=
  ["event", "node_id", "node_type", "output", "status", "latency_ms"]

/-- A value without colours, if it is a text. -/
def plainValue : Value → Value
  | .text content => .text (withoutColours content)
  | value => value

/-- The fields that a record adds, in their order. -/
def Record.added (record : Record) : List (String × Value) :=
  extraFields.filterMap fun name => (record.extra? name).map fun value => (name, plainValue value)

/-- The sequence that begins the colour of a level. -/
def levelColour : String → String
  | "DEBUG" => "\x1b[36m"
  | "INFO" => "\x1b[32m"
  | "WARNING" => "\x1b[33m"
  | "ERROR" => "\x1b[31m"
  | "CRITICAL" => "\x1b[35m"
  | _ => ""

/-- The sequence that ends a colour. -/
def colourEnd : String := "\x1b[0m"

/-- The first eight characters or items of a value. -/
def firstEight : Value → Except Fault Value
  | .text content => .ok (.text (String.ofList (content.toList.take 8)))
  | .list items => .ok (.list (items.take 8))
  | .tuple items => .ok (.tuple (items.take 8))
  | value => .error (.notSliceable value.kind)

/-- A field of the trace, or the empty text. -/
def traceValue (name : String) (trace : Trace) : Value :=
  (trace.get? name).getD (.text "")

/-- A labelled note of a value, if there is anything to note. -/
def note (label : String) (value : Value) : List String :=
  if value.isTruthy then [label ++ ":" ++ value.display] else []

/-- Where a record belongs, for readers. -/
def place (trace : Trace) : Except Fault String := do
  let request := traceValue "request_id" trace
  let short ← if request.isTruthy then (firstEight request).map some else .ok none
  let request := match short with
    | none => []
    | some value => ["req:" ++ value.display]
  let notes := request ++ note "ctl" (traceValue "controller" trace) ++
    note "node" (traceValue "node_id" trace)
  pure (if notes.isEmpty then "" else "[" ++ " | ".intercalate notes ++ "] ")

/-- A text with blanks after it up to a width. -/
def padRight (width : Nat) (content : String) : String :=
  content ++ String.ofList (List.replicate (width - content.length) ' ')

/-- The line for readers. -/
def Record.readableLine (record : Record) (trace : Trace) : Except Fault (List Text.Point) := do
  let place ← place trace
  let message ← record.message
  let event := match record.extra? "event" with
    | none => ""
    | some event => " [" ++ event.display ++ "]"
  let level := levelColour record.level ++ "[" ++ padRight 8 record.level ++ "]" ++ colourEnd
  let failure := match record.failure with
    | none => ""
    | some failure => "\n" ++ failure.text
  pure (Text.points (level ++ " " ++ place).toList ++ message ++
    Text.points (event ++ failure).toList)

end Log
end RequestFlow
