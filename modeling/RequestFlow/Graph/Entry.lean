import RequestFlow.Graph.Basic
import RequestFlow.Text.Casing

/-!
# Where a request enters a graph

The endpoint that serves a request is the first one with the request's method, in any case, whose
pattern matches the path. Its flow starts at the node named after the method and the endpoint's id;
without such a node, at the first node of the method's type that does not declare another path, or,
if the endpoint has an id, another endpoint.
-/

namespace RequestFlow

/-- An endpoint with the parameters that a path gives it. -/
structure EndpointMatch where
  /-- The endpoint. -/
  endpoint : Endpoint
  /-- The parameters, in the order of the pattern. -/
  parameters : Assoc String String

/-- A text in upper case. -/
def upperCase (content : String) : String :=
  String.ofList (Text.upper content.toList)

/-- A text in lower case. -/
def lowerCase (content : String) : String :=
  String.ofList (Text.lower content.toList)

namespace Endpoint

/-- The parameters that a method and a path give an endpoint which serves them. -/
def match? (method path : String) (endpoint : Endpoint) : Option EndpointMatch :=
  if upperCase endpoint.method = upperCase method then do
    let declared ← endpoint.path
    let parameters ← Route.match? declared path
    pure ⟨endpoint, parameters⟩
  else none

/-- The type of the nodes at which the endpoint's flow may start. -/
def entryType (endpoint : Endpoint) : String :=
  lowerCase endpoint.method

/-- The first segment of the endpoint's path. -/
def firstSegment? (endpoint : Endpoint) : Option (List Char) :=
  endpoint.path.bind fun path => Route.firstSegment? path.toList

end Endpoint

namespace Node

/-- Whether a node's declared path, if any, has the given first segment. -/
def sharesSegment (segment : List Char) (node : Node) : Bool :=
  let declared := node.data.get "path"
  !declared.isTruthy || Route.firstSegment? declared.display.toList == some segment

/-- Whether a node declares the given endpoint, or none is given. -/
def declaresEndpoint (id : Option String) (node : Node) : Bool :=
  match id with
  | none => true
  | some id =>
    match (node.data.get "endpointId").nonNull? with
    | some declared => declared.display == id
    | none => false

/-- Whether a node can be the start of an endpoint's flow. -/
def isEntryOf (endpoint : Endpoint) (segment : List Char) (node : Node) : Bool :=
  (node.data.get "type").same (.text endpoint.entryType) && node.sharesSegment segment &&
    node.declaresEndpoint (endpoint.id.bind nonEmpty?)

end Node

namespace Graph

/-- The first endpoint that serves a method and a path. -/
def matchEndpoint? (graph : Graph) (method path : String) : Option EndpointMatch :=
  graph.endpoints.findSome? (·.match? method path)

/-- The node named after an endpoint's method and id, if there is one. -/
def namedEntry? (graph : Graph) (endpoint : Endpoint) : Option String := do
  let id ← endpoint.id.bind nonEmpty?
  let candidate := endpoint.entryType ++ "-" ++ id
  if graph.hasNode candidate then some candidate else none

/-- The node at which an endpoint's flow starts. -/
def startNode? (graph : Graph) (endpoint : Endpoint) : Option String := do
  let segment ← endpoint.firstSegment?
  match graph.namedEntry? endpoint with
  | some candidate => some candidate
  | none => (graph.nodes.find? (·.isEntryOf endpoint segment)).map (·.id)

end Graph
end RequestFlow
