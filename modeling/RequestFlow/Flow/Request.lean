import RequestFlow.Value.Basic
import RequestFlow.Fault

/-!
# Requests and responses

A request is what the boundary knows about a call: its method, path, body, query, headers, the
parameters taken from the path, and the variables of the environment. A response has a status, a
body and headers.
-/

namespace RequestFlow

/-- An incoming request. -/
structure Request where
  /-- The method. -/
  method : String := "GET"
  /-- The path. -/
  path : String := "/"
  /-- The body, null without one. -/
  body : Value := .null
  /-- The parameters of the query. -/
  query : Fields := []
  /-- The headers. -/
  headers : Fields := []
  /-- The parameters that were taken from the path. -/
  parameters : Fields := []
  /-- The variables of the environment. -/
  env : Fields := []
  deriving Repr

/-- A reply to a request. -/
structure Response where
  /-- The status code. -/
  status : Int := 200
  /-- The body, which is sent as JSON. -/
  body : Value := .null
  /-- The headers. -/
  headers : Assoc String String := []
  deriving Repr

namespace Request

/-- The parts of a request that came with the call. -/
def parts (request : Request) : List (String × Value) :=
  [("method", .text request.method), ("path", .text request.path), ("body", request.body),
    ("query", .object request.query), ("headers", .object request.headers),
    ("params", .object request.parameters)]

/-- A request as nested objects, for look-ups by a dotted path. -/
def toFields (request : Request) : Fields :=
  Fields.named [("request", .record request.parts), ("env", .object request.env)]

/-- A request as a value. -/
def toValue (request : Request) : Value :=
  .object request.toFields

/-- Set a part of a request by its name. -/
def setField (request : Request) (name : String) (value : Value) : Except Fault Request :=
  let fields : Fields := match value with
    | .object fields => fields
    | _ => []
  match name with
  | "method" => .ok { request with method := value.display }
  | "path" => .ok { request with path := value.display }
  | "body" => .ok { request with body := value }
  | "query" => .ok { request with query := fields }
  | "headers" => .ok { request with headers := fields }
  | "path_params" => .ok { request with parameters := fields }
  | "env" => .ok { request with env := fields }
  | _ => .error (.unexpectedField "RequestContext" name)

/-- The request with the given parts, and defaults for the others. -/
def ofFields : Fields → Except Fault Request
  | [] => .ok {}
  | (key, value) :: rest =>
    match ofFields rest with
    | .error fault => .error fault
    | .ok request => request.setField (Value.display key.toValue) value

end Request
end RequestFlow
