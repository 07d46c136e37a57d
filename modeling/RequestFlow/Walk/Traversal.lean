import RequestFlow.Walk.Outcome

/-!
# Traversals

A traversal is the record of one walk through a graph: where it started, the nodes that were carried
out with their outcomes, in order, and why it stopped. None of the reasons to stop is a fault of the
program; an unknown type is reported as one by name.
-/

namespace RequestFlow

/-- Why a walk stopped: no node follows, the next node has been visited, there is no such node, or
nothing handles its type. -/
inductive Stop
  | deadEnd
  | cycle
  | missingNode
  | unresolvedHandler (typeTag node : String)
  deriving DecidableEq, Repr

/-- A node that was carried out, and how it ended. -/
structure Step where
  /-- The id of the node. -/
  node : String
  /-- How it ended. -/
  outcome : Outcome
  deriving Repr

/-- The record of a walk. -/
structure Traversal where
  /-- The id at which the walk started. -/
  start : String
  /-- The nodes that were carried out, in order. -/
  steps : List Step := []
  /-- Why the walk stopped. -/
  stop : Stop := .deadEnd
  deriving Repr

namespace Stop

/-- The word for a reason to stop. -/
def name : Stop → String
  | .deadEnd => "dead_end"
  | .cycle => "cycle"
  | .missingNode => "missing_node"
  | .unresolvedHandler _ _ => "unresolved_handler"

end Stop

namespace Traversal

/-- The ids of the nodes that were carried out, in order. -/
def path (traversal : Traversal) : List String :=
  traversal.steps.map (·.node)

/-- The outcome of the last node that was carried out. -/
def lastOutcome? (traversal : Traversal) : Option Outcome :=
  traversal.steps.getLast?.map (·.outcome)

/-- The fault to report for a type that nothing handles. -/
def fault? (traversal : Traversal) : Option Fault :=
  match traversal.stop with
  | .unresolvedHandler typeTag node => some (.handlerNotFound typeTag node)
  | _ => none

/-- The walk that takes a step from a node and goes on with a traversal. -/
def after (step : Step) (rest : Traversal) : Traversal :=
  { start := step.node, steps := step :: rest.steps, stop := rest.stop }

end Traversal
end RequestFlow
