import RequestFlow.Graph.Node
import RequestFlow.Route.Pattern

/-!
# Flow graphs

The flow of a controller: the endpoints it serves, the nodes that serve them, and the variables of
its environments. The order of endpoints and nodes is that of the document. Nodes are looked up by
id, in an index that is made with the graph.
-/

namespace RequestFlow

/-- A method and a path pattern that a controller serves. -/
structure Endpoint where
  /-- The id, after which its start may be named. -/
  id : Option String := none
  /-- The method that it serves. -/
  method : String := "GET"
  /-- The pattern of the paths that it serves. -/
  path : Option String := none
  /-- What else the document declares of it. -/
  extras : Assoc String Value := []
  deriving Repr

namespace Endpoint

/-- A text, or null without one. -/
def textOrNull : Option String → Value
  | some content => .text content
  | none => .null

/-- An endpoint as a value: id, method and path, then what else was declared. -/
def toValue (endpoint : Endpoint) : Value :=
  .record (Assoc.merge
    [("id", textOrNull endpoint.id), ("method", .text endpoint.method),
      ("path", textOrNull endpoint.path)]
    endpoint.extras)

/-- An endpoint as a value without its fields that are null. -/
def toCompactValue (endpoint : Endpoint) : Value :=
  match endpoint.toValue with
  | .object fields => .object (fields.filter fun field => !field.2.isNull)
  | value => value

/-- What a client may be told of an endpoint. -/
def summary (endpoint : Endpoint) : Value :=
  .record [("method", .text endpoint.method), ("path", textOrNull endpoint.path)]

end Endpoint

/-- Nodes by their ids, where a later node takes the place of an earlier one with its id. -/
def Node.byId (nodes : List Node) : Assoc String Node :=
  Assoc.merge [] (nodes.map fun node => (node.id, node))

/-- An index of nodes. -/
structure NodeIndex (nodes : List Node) where
  /-- The nodes by their ids. -/
  entries : Assoc String Node
  /-- All of them were put in, one after another, and nothing else. -/
  made : entries = Node.byId nodes
  deriving Repr

/-- The index of the given nodes. -/
def NodeIndex.of (nodes : List Node) : NodeIndex nodes :=
  ⟨Node.byId nodes, rfl⟩

/-- The flow of a controller. -/
structure Graph where
  /-- The name of the controller. -/
  controller : String := ""
  /-- The endpoints that it serves. -/
  endpoints : List Endpoint := []
  /-- The nodes of the flow. -/
  nodes : List Node := []
  /-- The variables of each environment. -/
  environments : Assoc String Fields := []
  /-- The environment whose variables are used unless another is named. -/
  selectedEnvironment : String := "development"
  /-- The index in which nodes are looked up. -/
  index : NodeIndex nodes := .of nodes
  deriving Repr

namespace Graph

/-- The node with an id. -/
def find? (graph : Graph) (id : String) : Option Node :=
  graph.index.entries.get? id

/-- Whether there is a node with an id. -/
def hasNode (graph : Graph) (id : String) : Bool :=
  (graph.find? id).isSome

/-- The variables of an environment; without a name, of the selected one. -/
def environment (graph : Graph) (name : Option String) : Fields :=
  let chosen := (name.bind nonEmpty?).getD graph.selectedEnvironment
  (graph.environments.get? chosen).getD []

/-- The ids that occur at an earlier node as well, in order. -/
def repeatedIds : (seen : List String) → List Node → List String
  | _, [] => []
  | seen, node :: rest =>
    if node.id ∈ seen then node.id :: repeatedIds seen rest
    else repeatedIds (node.id :: seen) rest

/-- The graph under another controller's name; the index is that of the graph. -/
def renamed (graph : Graph) (controller : String) : Graph :=
  { graph with controller }

/-- The graph with other nodes, and an index of these. -/
def withNodes (graph : Graph) (nodes : List Node) : Graph :=
  { graph with nodes, index := .of nodes }

/-- Among nodes that are listed with their ids, the first with an id is found. -/
theorem get?_map_id
    (id : String)
    (nodes : List Node) :
    Assoc.get? id (nodes.map fun node => (node.id, node)) = nodes.find? (·.id == id) := by
  induction nodes with
  | nil => rfl
  | cons node nodes inductionHypothesis =>
      rw [List.find?_cons, List.map_cons, Assoc.get?, inductionHypothesis]
      cases node.id == id <;> rfl

variable {graph : Graph} {id : String} {node : Node}

/-- The index gives the last of the nodes with an id. -/
theorem find?_eq_find?_reverse
    (graph : Graph)
    (id : String) :
    graph.find? id = graph.nodes.reverse.find? (·.id == id) := by
  unfold find?
  rw [graph.index.made, Node.byId, Assoc.get?_merge, ← List.map_reverse, get?_map_id,
    Assoc.get?_nil, Option.or_none]

/-- The node that is found has the id that was asked for. -/
theorem id_of_find?
    (found : graph.find? id = some node) :
    node.id = id := by
  rw [find?_eq_find?_reverse] at found
  simpa using List.find?_some found

/-- The node that is found is one of the graph. -/
theorem mem_of_find?
    (found : graph.find? id = some node) :
    node ∈ graph.nodes := by
  rw [find?_eq_find?_reverse] at found
  exact List.mem_reverse.1 (List.mem_of_find?_eq_some found)

end Graph
end RequestFlow
