import RequestFlow.Value.Text
import RequestFlow.Fault

/-!
# Outcomes

A handler ends with an outcome: the key of the output to follow, if any, and a payload, null for
none. Handlers from outside may answer with a plain value instead, which is read as an outcome.
-/

namespace RequestFlow

/-- How a node ended: the output to follow and the payload to record. -/
structure Outcome where
  /-- The key of the output to follow. -/
  output : Option String := none
  /-- What is recorded, unless it is null. -/
  payload : Value := .null
  deriving Repr

/-- What a handler answers. -/
inductive Reply
  | outcome (outcome : Outcome)
  | value (value : Value)
  deriving Repr

namespace Outcome

/-- The key under which the payload is recorded. -/
def key (outcome : Outcome) : Key :=
  match outcome.output with
  | none => .null
  | some name => .text name

/-- The output that a field of an answer names. -/
def namedOutput (value : Value) : Option String :=
  value.nonNull?.map Value.display

/-- Read a plain value as an outcome: null ends the traversal, an object gives the output and the
payload, and a text is an output without a payload. -/
def ofValue : Value → Except Fault Outcome
  | .null => .ok {}
  | .object fields =>
    .ok { output := namedOutput (Fields.get "output" fields), payload := Fields.get "data" fields }
  | .text name => .ok { output := some name }
  | value => .error (.unsupportedOutcome value.kind)

end Outcome

/-- The outcome that a reply stands for. -/
def Reply.toOutcome : Reply → Except Fault Outcome
  | .outcome given => .ok given
  | .value plain => Outcome.ofValue plain

/-- An outcome with an output and no payload. -/
def Reply.leave (output : String) : Reply :=
  .outcome { output := some output }

/-- An outcome with an output and a payload. -/
def Reply.leaveWith (output : String) (payload : Value) : Reply :=
  .outcome { output := some output, payload }

end RequestFlow
