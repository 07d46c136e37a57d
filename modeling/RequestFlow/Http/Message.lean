import RequestFlow.Flow.Request
import RequestFlow.Graph.Entry
import RequestFlow.Json.Printer

/-!
# Messages

Requests and responses as they travel. A name may stand more than once in a query or among headers,
and its first value counts. Names of headers are the same in any case.
-/

namespace RequestFlow
namespace Http

/-- A request: its path without percent escapes, and its body unless that could not be read. -/
structure Request where
  /-- The method. -/
  method : String
  /-- The path without percent escapes. -/
  path : String
  /-- The names and values of the query, in order. -/
  query : List (String × String) := []
  /-- The names and values of the headers, in order. -/
  headers : List (String × String) := []
  /-- The bytes of the body, unless they could not be read. -/
  body : Option (List UInt8) := some []

/-- A response. -/
structure Response where
  /-- The status code. -/
  status : Int
  /-- The text that is sent. -/
  content : String
  /-- The headers. -/
  headers : Assoc String String
  deriving Repr

/-- Whether two names of headers are the same. -/
def sameName (first second : String) : Bool :=
  lowerCase first == lowerCase second

/-- Every name with the first value that stands under the same name. -/
def firstValues (same : String → String → Bool) (entries : List (String × String)) : Fields :=
  entries.foldl (fun fields entry =>
    let value := ((entries.find? (same entry.1 ·.1)).map (·.2)).getD entry.2
    fields.put (.text entry.1) (.text value)) []

/-- Headers in which a name has the given value, and is spelled as it is given. -/
def setHeader (name value : String) : Assoc String String → Assoc String String
  | [] => [(name, value)]
  | (present, old) :: rest =>
    if sameName present name then (name, value) :: rest.filter fun entry => !sameName entry.1 name
    else (present, old) :: setHeader name value rest

/-- The headers of every response, unless a flow sets others. -/
def defaultHeaders : Assoc String String :=
  [("Content-Type", "application/json; charset=utf-8")]

/-- A response with a value as its body. -/
def Response.ofValue (style : Json.Style) (status : Int) (body : Value) :
    Except Fault Response := do
  let content ← Json.write style body
  pure { status, content, headers := defaultHeaders }

/-- The response of a flow as it travels. -/
def Response.ofFlow (response : RequestFlow.Response) : Except Fault Response := do
  let plain ← Response.ofValue Json.spaced response.status response.body
  let headers := response.headers.foldl
    (fun headers header => setHeader header.1 header.2 headers) plain.headers
  pure { plain with headers }

end Http
end RequestFlow
