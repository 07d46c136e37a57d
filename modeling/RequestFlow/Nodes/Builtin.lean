import RequestFlow.Nodes.Entry
import RequestFlow.Nodes.Loop
import RequestFlow.Nodes.Respond
import RequestFlow.Nodes.Validation

/-!
# Built-in nodes

The sorts of nodes that every engine knows, and the types under which they are found.
-/

namespace RequestFlow

/-- A sort of node that every engine knows. -/
inductive Builtin
  | assignment
  | entry
  | response
  | loop
  | validation
  deriving DecidableEq, Repr

namespace Builtin

/-- What a built-in node does. -/
def perform {ω : Type} (support : Rules.Support) : Builtin → Nodes.Action ω
  | .assignment => Nodes.assign
  | .entry => Nodes.enter
  | .response => Nodes.respond
  | .loop => Nodes.loop
  | .validation => Nodes.validate support

/-- The built-in nodes that are there from the start, with their types. -/
def ready : List (String × Builtin) :=
  [("variable", .assignment), ("setVariableValue", .assignment)] ++
    Nodes.entryTypes.map (·, .entry) ++ [("response", .response), ("loop", .loop)]

/-- The built-in nodes that are made when they are first looked up. -/
def made : List (String × Builtin) :=
  [("validation", .validation)]

/-- The built-in node of a type. -/
def ofType? (typeTag : String) : Option Builtin :=
  (ready ++ made).lookup typeTag

end Builtin
end RequestFlow
