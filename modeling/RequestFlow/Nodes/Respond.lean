import RequestFlow.Json.Embedded
import RequestFlow.Nodes.Variable

/-!
# Response nodes

A response node sets the response from its configuration and ends the walk. References in a text
leave lists and objects behind as JSON, so a body whose text begins like one of these is read as
JSON.
-/

namespace RequestFlow
namespace Nodes

/-- Whether the first character that is not blank opens a list or an object. -/
def opensComposite (content : String) : Bool :=
  match Text.trimStart content.toList with
  | '\x7b' :: _ | '[' :: _ => true
  | _ => false

/-- The body to respond with: the value of a text that is the JSON of a list or an object, and what
is given otherwise. -/
def decodeBody : Value → Except Fault Value
  | .text content =>
    if opensComposite content then
      match Json.embedded? content with
      | .ok (some value) => .ok value
      | .ok none => .ok (.text content)
      | .error fault => .error fault
    else .ok (.text content)
  | value => .ok value

/-- Headers as texts. -/
def headerTexts (fields : Fields) : Assoc String String :=
  fields.foldl (fun headers field => headers.put field.1.toValue.display field.2.display) []

/-- The configured headers; nothing counts as no headers. -/
def configuredHeaders (node : Node) : Except Fault Fields :=
  match (node.data.get "headers").orElse (.object []) with
  | .object fields => .ok fields
  | _ => .error (.headersNotObject node.id)

/-- The response that a configuration describes. -/
def responseOf (node : Node) : Except Fault Response := do
  let status ← ((node.data.get "statusCode").orElse (.int 200)).toInteger
  let headers ← configuredHeaders node
  let body ← decodeBody (node.data.get "body")
  pure { status, body, headers := headerTexts headers }

/-- Set the configured response. -/
def respond {ω : Type} : Action ω := fun call _ => do
  let response ← .ofExcept (responseOf call.node)
  Session.respond response
  pure (.outcome {})

end Nodes
end RequestFlow
