import RequestFlow.Nodes.Variable

/-!
# Entry nodes

The flow of an endpoint usually starts at an entry node. Its payload is the request, so that later
nodes can refer to its parts.
-/

namespace RequestFlow

/-- The parts of a request that an entry node records. -/
def Request.recorded (request : Request) : List (String × Value) :=
  [("method", .text request.method), ("path", .text request.path),
    ("params", .object request.parameters), ("query", .object request.query),
    ("body", request.body)]

/-- What an entry node records. -/
def Request.payload (request : Request) : Value :=
  .record request.recorded

namespace Nodes

/-- The types of entry nodes, one for each method. -/
def entryTypes : List String :=
  ["get", "post", "put", "patch", "delete"]

/-- Record the request. -/
def enter {ω : Type} : Action ω := fun _ _ => do
  let request ← .read (·.request)
  pure (.leaveWith "out" request.payload)

end Nodes
end RequestFlow
