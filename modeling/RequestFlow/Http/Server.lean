import RequestFlow.Engine.Handle
import RequestFlow.Http.Body
import RequestFlow.Http.Message

/-!
# Serving requests

The first segment of a path names the controller; the whole path is matched against the endpoints of
that controller. A path without segments is not found, and a body that cannot be read is the
client's fault.
-/

namespace RequestFlow
namespace Http

variable {ν η : Type}

/-- The response to a path without segments. -/
def notFound : Value :=
  .record [("error", .text "Not found"), ("code", .int 4004)]

/-- The response to a request whose body cannot be read. -/
def unreadable : Value :=
  .record [("error", .text "Failed to read request body")]

/-- A request as it reaches the engine. -/
def Request.toIncoming (request : Request) (id controller : String) (bytes : List UInt8) :
    Incoming where
  id := id
  controller := controller
  method := request.method
  path := request.path
  body := bodyValue bytes
  query := firstValues (· == ·) request.query
  headers := firstValues sameName request.headers

/-- Serve a request, whose log lines carry the given id. -/
def serve (host : Host ν η) (id : String) (request : Request) :
    Transition (Engine ν η) Response := do
  match Route.firstSegment? request.path.toList with
  | none => .ofExcept (Response.ofValue Json.asciiSpaced 404 notFound)
  | some segment =>
    match request.body with
    | none => .ofExcept (Response.ofValue Json.asciiSpaced 400 unreadable)
    | some bytes =>
      let response ← Engine.handle host (request.toIncoming id (String.ofList segment) bytes)
      .ofExcept (Response.ofFlow response)

end Http
end RequestFlow
