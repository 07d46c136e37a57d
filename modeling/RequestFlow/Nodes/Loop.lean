import RequestFlow.Json.Embedded
import RequestFlow.Nodes.Variable

/-!
# Loop nodes

A loop walks the flow at its output `inLoop` once for each item, after the flow at `beforeLoop`, if
that is wired. Each item is bound to a variable and recorded before its walk. A fault in one of
these walks ends the loop with the outcome `error`; what was done before stays. Otherwise the
outcome is `afterLoop`.
-/

namespace RequestFlow
namespace Nodes

/-- An item of a loop with its position or key. -/
structure Item where
  /-- The position, or the key. -/
  index : Value
  /-- The item itself. -/
  value : Value
  deriving Repr

/-- The items of a list with their positions, and the fields of an object with their keys. -/
def itemsOf : Value → List Item
  | .object fields => fields.map fun field => ⟨field.1.toValue, field.2⟩
  | .list items | .tuple items => items.zipIdx.map fun entry => ⟨.int entry.2, entry.1⟩
  | _ => []

/-- The items to loop over. A text is read as JSON; whatever is no list or object has no items. -/
def loopItems : Value → Except Fault (List Item)
  | .text content =>
    match Json.embedded? content with
    | .ok (some value) => .ok (itemsOf value)
    | .ok none => .ok []
    | .error fault => .error fault
  | value => .ok (itemsOf value)

/-- The variable that holds the current item. -/
def itemVariable (node : Node) : String :=
  ((node.data.get "itemVarName").orElse (.text "loopItem")).display

/-- Walk the flow at an output, if that output is declared. -/
def walkIfDeclared {ω : Type} (subflow : Subflow ω) (node : Node) (output : String) :
    Transition (Session ω) Unit :=
  if node.hasOutput output then do
    let _ ← subflow node (some output)
    pure ()
  else pure ()

/-- Bind an item and walk the flow for it. -/
def carryOut {ω : Type} (subflow : Subflow ω) (node : Node) (item : Item) :
    Transition (Session ω) (Except Fault Unit) := do
  Session.setVariable (itemVariable node) item.value
  Session.record node.id (.text "currentItem")
    (.record [("index", item.index), ("value", item.value)])
  (walkIfDeclared subflow node "inLoop").attempt

/-- The reply of a loop that failed before its first item. -/
def failedBefore (fault : Fault) : Reply :=
  .leaveWith "error" (.record [("message", .text "Error in beforeLoop"),
    ("error", .text fault.message)])

/-- The reply of a loop that failed at an item. -/
def failedAt (item : Item) (fault : Fault) : Reply :=
  .leaveWith "error" (.record [("message", .text "Error in inLoop"),
    ("index", item.index), ("error", .text fault.message)])

/-- The reply of a loop that went through all its items. -/
def finished (node : Node) (processed : Nat) : Reply :=
  .leaveWith "afterLoop" (.record [("message", .text "Loop node executed successfully"),
    ("count", .int processed), ("itemVarName", .text (itemVariable node))])

/-- Carry out items one by one, after the given number of items. -/
def eachItem {ω : Type} (subflow : Subflow ω) (node : Node) :
    (processed : Nat) → List Item → Transition (Session ω) Reply
  | processed, [] => pure (finished node processed)
  | processed, item :: rest => do
    match ← carryOut subflow node item with
    | .error fault => pure (failedAt item fault)
    | .ok () => eachItem subflow node (processed + 1) rest

/-- Loop over the configured items. -/
def loop {ω : Type} : Action ω := fun call subflow => do
  let items ← .ofExcept (loopItems (call.node.data.get "items"))
  match ← (walkIfDeclared subflow call.node "beforeLoop").attempt with
  | .error fault => pure (failedBefore fault)
  | .ok () => eachItem subflow call.node 0 items

end Nodes
end RequestFlow
