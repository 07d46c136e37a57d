import RequestFlow.Proofs.Flow.Growth
import RequestFlow.Proofs.Walk.Invariant

/-!
# Walks take nothing back

A walk writes in few places: it keeps the payloads of its nodes, loops bind their items, and
variable and validation nodes set variables. Each of these adds to the memory of the request and
removes nothing, and payloads are recorded at reached nodes only. So it is with every walk, also
with one that fails.
-/

namespace RequestFlow

namespace Nodes

variable {ids : Set String}

/-! ## Nodes that start no walks -/

theorem grows_setNamed
    (name value : Value)
    (memory : Memory) :
    memory.Grows ids (setNamed name value memory) := by
  unfold setNamed
  split
  · exact Memory.grows_setVariable name.display value memory
  · exact Memory.Grows.refl memory

theorem grows_act
    (memory : Memory)
    (action : Value) :
    memory.Grows ids (act memory action) := by
  unfold act
  split
  · split
    · exact grows_setNamed _ _ memory
    · exact Memory.Grows.refl memory
  · exact Memory.Grows.refl memory

theorem grows_foldl_act
    (actions : List Value)
    (memory : Memory) :
    memory.Grows ids (actions.foldl act memory) := by
  induction actions generalizing memory with
  | nil => exact Memory.Grows.refl memory
  | cons action actions inductionHypothesis =>
      exact (grows_act memory action).trans (inductionHypothesis (act memory action))

/-- What a validation node remembers it adds, the named variable first and then the actions. -/
theorem grows_conclude
    (config : Fields)
    (name actions : String)
    (value : Value)
    (memory : Memory) :
    memory.Grows ids (conclude config name actions value memory) := by
  have named : memory.Grows ids (setNamed (config.get name) value memory) :=
    grows_setNamed (config.get name) value memory
  unfold conclude actAll
  split
  · exact named.trans (grows_foldl_act _ _)
  · exact named

/-- A built-in node that starts no walks sets variables at most. -/
theorem grows_perform
    {ω : Type}
    {support : Rules.Support}
    {builtin : Builtin}
    {call : Call}
    {subflow : Subflow ω}
    {session final : Session ω}
    {answer : Except Fault Reply}
    (notLoop : builtin ≠ .loop)
    (performed : builtin.perform support call subflow session = (answer, final)) :
    session.memory.Grows ids final.memory := by
  cases builtin with
  | loop => exact absurd rfl notLoop
  | assignment =>
      rw [Builtin.perform, assign_apply] at performed
      split at performed
      · cases performed
        exact Memory.grows_setVariable _ _ _
      · cases performed
        exact Memory.Grows.refl _
  | entry =>
      rw [Builtin.perform, enter_apply] at performed
      cases performed
      exact Memory.Grows.refl _
  | response =>
      rw [Builtin.perform, respond_apply] at performed
      split at performed
      · cases performed
        exact Memory.Grows.refl _
      · cases performed
        exact Memory.Grows.refl _
  | validation =>
      rw [Builtin.perform, validate_apply] at performed
      split at performed
      · cases performed
        exact Memory.Grows.refl _
      · cases performed
        exact grows_conclude _ _ _ _ _
      · cases performed
        exact grows_conclude _ _ _ _ _

end Nodes

namespace Walk

variable {ω : Type} {resolve : String → Transition ω (Option Builtin)}
  {support : Rules.Support}

/-- The payload of an outcome is added to those of its node. -/
theorem grows_kept
    {ids : Set String}
    {id : String}
    (inside : id ∈ ids)
    (outcome : Outcome)
    (session : Session ω) :
    session.memory.Grows ids (kept id outcome session).memory := by
  unfold kept
  split
  · exact Memory.Grows.refl _
  · exact Memory.grows_record inside _ _ _

/-- Every move of a walk adds to the memory, and records at the node at which it is made. -/
theorem stepInvariantAt_grows
    (carried : Set String)
    (before : Memory) :
    StepInvariantAt carried resolve support
      fun session => before.Grows carried session.memory where
  dispatched _ _ _ grown := grown
  kept _ outcome session inside grown := grown.trans (grows_kept inside outcome session)
  bound _ _ _ inside grown := by
    apply grown.trans
    apply (Memory.grows_setVariable _ _ _).trans
    exact Memory.grows_record inside _ _ _
  returned _ _ _ grown := grown
  alone notLoop performed grown := grown.trans (Nodes.grows_perform notLoop performed)

/-- With built-in nodes a walk only adds to the memory of its request, whether it ends with a record
or with a fault: the variables, the nodes that have recorded something, and the keys of each such
node are listed afterwards as they were before, and what is new stands behind them. Payloads are
added or changed only at nodes of the graph to which it leads from the start of the walk. -/
theorem memory_grows_of_run
    (graph : Graph)
    (resolve : String → Transition ω (Option Builtin))
    (support : Rules.Support)
    (limit depth : Int)
    (start : String)
    (session : Session ω) :
    session.memory.Grows { id | graph.Reaches start id ∧ graph.hasNode id = true }
      (run graph (builtins resolve support) limit depth start session).2.memory := by
  obtain ⟨calls, execution⟩ :=
    exists_executes_run graph resolve support limit depth start session
  have confines := graph.confines_reaches start
  have moves : StepInvariantAt { id | graph.Reaches start id ∧ graph.hasNode id = true } resolve
      support fun reached => session.memory.Grows _ reached.memory :=
    stepInvariantAt_grows _ session.memory
  exact execution.keeps_at confines moves Graph.Reaches.start (Memory.Grows.refl session.memory)

end Walk
end RequestFlow
