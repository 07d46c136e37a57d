import RequestFlow.Value.Basic
import RequestFlow.Fault

/-!
# What a request remembers

While a request is served its nodes set variables and record payloads. A payload is recorded under
the id of its node and the key of its outcome. Nodes are listed in the order of their first record,
and so are the keys of each node; recording again changes the payload and not the order.
-/

namespace RequestFlow

/-- The variables and recorded payloads of one request. -/
structure Memory where
  /-- The values of variables, in the order in which these were first set. -/
  bindings : Assoc String Value := []
  /-- The payloads that each node has recorded, by the keys of its outcomes. -/
  outputs : Assoc String Fields := []
  deriving Repr

namespace Memory

/-- A request that remembers nothing. -/
def empty : Memory := {}

/-- Set a variable. -/
def setVariable (name : String) (value : Value) (memory : Memory) : Memory :=
  { memory with bindings := memory.bindings.put name value }

/-- The value of a variable, if it is set. -/
def getVariable? (name : String) (memory : Memory) : Option Value :=
  memory.bindings.get? name

/-- Record a payload. -/
def record (node : String) (key : Key) (payload : Value) (memory : Memory) : Memory :=
  let recorded := (memory.outputs.get? node).getD []
  { memory with outputs := memory.outputs.put node (recorded.put key payload) }

/-- List a node that has recorded nothing yet. -/
def mention (node : String) (memory : Memory) : Memory :=
  { memory with outputs := memory.outputs.put node ((memory.outputs.get? node).getD []) }

/-- The payload recorded for a node and a key. -/
def output? (node : String) (key : Key) (memory : Memory) : Option Value :=
  (memory.outputs.get? node).bind (Assoc.get? key)

/-- Every payload of a node, by its key. -/
def outputsOf? (node : String) (memory : Memory) : Option Fields :=
  memory.outputs.get? node

/-- Every payload of the node that was listed last. -/
def lastOutputs? (memory : Memory) : Option Fields :=
  memory.outputs.getLast?.map (·.2)

end Memory
end RequestFlow
