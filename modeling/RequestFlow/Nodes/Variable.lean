import RequestFlow.Walk.Basic

/-!
# Variable nodes

A variable node sets the variable that its configuration names to the value given there.
-/

namespace RequestFlow
namespace Nodes

/-- What a handler does when it is called. -/
abbrev Action (ω : Type) :=
  Call → Subflow ω → Transition (Session ω) Reply

/-- Set the configured variable. -/
def assign {ω : Type} : Action ω := fun call _ => do
  let name := call.node.data.get "variableName"
  if name.isTruthy then
    Session.setVariable name.display (call.node.data.get "value")
    pure (.leave "out")
  else
    .fail (.noVariableName call.node.id)

end Nodes
end RequestFlow
