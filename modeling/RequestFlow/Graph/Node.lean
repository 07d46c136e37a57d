import RequestFlow.Value.Text

/-!
# Nodes

A node has an id, a configuration, and named outputs that lead to further nodes. The edge is stored
at the node it leaves, so following it is a look-up of the outcome key. An output may be declared
without a target; it is then a dead end like an output that is not declared.
-/

namespace RequestFlow

/-- One outgoing edge: the node to go on with, and further properties of the edge. -/
structure Edge where
  /-- The id of the node to go on with. -/
  target : Option String
  /-- Further properties. -/
  extras : Assoc String Value := []
  deriving Repr

/-- A node of a graph. -/
structure Node where
  /-- The id under which the node is found. -/
  id : String
  /-- The type that is declared beside the configuration. -/
  declaredType : Option String := none
  /-- The configuration. -/
  data : Fields := []
  /-- The named outputs, some of which may have no edge. -/
  outputs : Assoc String (Option Edge) := []
  deriving Repr

/-- A text, or nothing if it is empty. -/
def nonEmpty? (content : String) : Option String :=
  if content = "" then none else some content

namespace Node

/-- The type that selects the handler: declared in the configuration, else at the node, else
`unknown`. -/
def typeTag (node : Node) : String :=
  match (node.data.get "type").nonNull? with
  | some declared => declared.display
  | none => node.declaredType.getD "unknown"

/-- The name of a node in reports: its label, or its id without one. -/
def label (node : Node) : String :=
  let declared := node.data.get "label"
  if declared.isTruthy then declared.display else node.id

/-- Whether an output of that name is declared, with or without a target. -/
def hasOutput (node : Node) (key : String) : Bool :=
  node.outputs.has key

/-- The node that an outcome leads to; none for a dead end. -/
def next? (node : Node) (key : Option String) : Option String := do
  let name ← key
  let name ← nonEmpty? name
  let edge ← node.outputs.get? name
  let edge ← edge
  let target ← edge.target
  nonEmpty? target

/-- The node with another configuration. -/
def withData (node : Node) (data : Fields) : Node :=
  { node with data }

@[simp] theorem next?_withData
    (node : Node)
    (data : Fields)
    (key : Option String) :
    (node.withData data).next? key = node.next? key := rfl

end Node
end RequestFlow
