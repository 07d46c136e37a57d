import RequestFlow.Proofs.Graph.Reach
import RequestFlow.Proofs.Nodes.Builtin
import RequestFlow.Proofs.Walk.Finishing

/-!
# What every move keeps

A walk changes its session by few kinds of moves: it looks up a handler, keeps a payload, binds an
item, comes back from a walk at an output, or carries out a node that starts no walks. What each of
these keeps is kept by every walk, and so it holds wherever a walk arrives.
-/

namespace RequestFlow
namespace Walk

variable {ω : Type}
  {graph : Graph} {resolve : String → Transition ω (Option Builtin)}
  {support : Rules.Support} {limit : Int} {invariant : Session ω → Prop}

/-- A property of sessions that each move of a walk keeps, at the nodes with the given ids. -/
structure StepInvariantAt
    (carried : Set String)
    (resolve : String → Transition ω (Option Builtin))
    (support : Rules.Support)
    (invariant : Session ω → Prop) : Prop where
  /-- Looking up a handler and noting the node keep it. -/
  dispatched : ∀ node session, node.id ∈ carried →
    invariant session → invariant (dispatched (builtins resolve support) node session)
  /-- Recording a payload keeps it. -/
  kept : ∀ id outcome session, id ∈ carried →
    invariant session → invariant (kept id outcome session)
  /-- Binding an item of a loop keeps it. -/
  bound : ∀ node item session, node.id ∈ carried →
    invariant session → invariant (Nodes.bound node item session)
  /-- Coming back from the walk of an item keeps it. -/
  returned : ∀ node session, node.id ∈ carried →
    invariant session → invariant (returned node session)
  /-- A node that starts no walks keeps it. -/
  alone : ∀ {builtin call subflow session answer final}, builtin ≠ Builtin.loop →
    builtin.perform support call subflow session = (answer, final) →
      invariant session → invariant final

/-- A property of sessions that each move of a walk keeps. -/
structure StepInvariant
    (resolve : String → Transition ω (Option Builtin))
    (support : Rules.Support)
    (invariant : Session ω → Prop) : Prop where
  /-- Looking up a handler and noting the node keep it. -/
  dispatched : ∀ node session, invariant session →
    invariant (dispatched (builtins resolve support) node session)
  /-- Recording a payload keeps it. -/
  kept : ∀ id outcome session, invariant session → invariant (kept id outcome session)
  /-- Binding an item of a loop keeps it. -/
  bound : ∀ node item session, invariant session → invariant (Nodes.bound node item session)
  /-- Coming back from the walk of an item keeps it. -/
  returned : ∀ node session, invariant session → invariant (returned node session)
  /-- A node that starts no walks keeps it. -/
  alone : ∀ {builtin call subflow session answer final}, builtin ≠ Builtin.loop →
    builtin.perform support call subflow session = (answer, final) →
      invariant session → invariant final

/-- A part of a walk stays at the ids: it starts at one of them, or at a node that is carried out
and leads to no others. -/
def Task.StaysAt (ids carried : Set String) : Task → Prop
  | .walk _ current => current ∈ ids
  | .flow node _ | .flowIfDeclared node _ | .handler _ node | .items node _ _ =>
      node.id ∈ carried ∧ node.LeadsInto ids

/-- What each move keeps at the nodes that a walk can carry out, every part of it keeps. -/
theorem Executes.keeps_at
    {ids carried : Set String}
    (confines : graph.Confines ids carried)
    (stepInvariant : StepInvariantAt carried resolve support invariant)
    {task : Task}
    {depth : Int}
    {session final : Session ω}
    {calls : List Call}
    {result : Except Fault task.Result}
    (execution :
      Executes graph resolve support limit task depth session calls result final)
    (stays : task.StaysAt ids carried)
    (holds : invariant session) :
    invariant final := by
  have sited : ∀ {current node}, current ∈ ids → graph.find? current = some node →
      node.id ∈ carried ∧ node.LeadsInto ids := by
    intro current node inside found
    rw [Graph.id_of_find? found]
    exact ⟨confines.carries current inside node found, confines.closed current inside node found⟩
  have prepared : ∀ {node session found ready}, node.id ∈ carried →
      prepare (builtins resolve support) node session = (found, ready) →
        invariant session → invariant ready := by
    intro node session found ready inside moved holds
    rw [eq_dispatched_of_prepare moved]
    exact stepInvariant.dispatched node session inside holds
  induction execution with
  | cycle | missingNode | unwired | refused | undeclared | loopUnread | finished => exact holds
  | unprepared _ found moved | unresolvedHandler _ found moved =>
      exact prepared (sited stays found).1 moved holds
  | failed _ found moved _ _ inductionHypothesis =>
      have site := sited stays found
      exact inductionHypothesis site (prepared site.1 moved holds)
  | deadEnd _ found moved _ _ _ inductionHypothesis =>
      have site := sited stays found
      apply stepInvariant.kept _ _ _ site.1
      exact inductionHypothesis site (prepared site.1 moved holds)
  | onward _ found moved _ _ next _ inductionHypothesis further =>
      have site := sited stays found
      apply further (site.2 _ _ next)
      apply stepInvariant.kept _ _ _ site.1
      exact inductionHypothesis site (prepared site.1 moved holds)
  | flowFailed wired _ _ inductionHypothesis =>
      exact inductionHypothesis (stays.2 _ _ wired) holds
  | flowWalked wired _ _ inductionHypothesis =>
      apply stepInvariant.returned _ _ stays.1
      exact inductionHypothesis (stays.2 _ _ wired) holds
  | declared _ _ inductionHypothesis => exact inductionHypothesis stays holds
  | alone notLoop same =>
      exact stepInvariant.alone notLoop (same fun _ _ => pure none) holds
  | loopFailedBefore _ _ inductionHypothesis => exact inductionHypothesis stays holds
  | loopStarted _ _ _ inductionHypothesis further =>
      exact further stays (inductionHypothesis stays holds)
  | itemFailed _ inductionHypothesis =>
      exact inductionHypothesis stays (stepInvariant.bound _ _ _ stays.1 holds)
  | itemDone _ _ inductionHypothesis further =>
      apply further stays
      exact inductionHypothesis stays (stepInvariant.bound _ _ _ stays.1 holds)

/-- What each move keeps, every part of a walk keeps. -/
theorem Executes.keeps
    (stepInvariant : StepInvariant resolve support invariant)
    {task : Task}
    {depth : Int}
    {session final : Session ω}
    {calls : List Call}
    {result : Except Fault task.Result}
    (execution :
      Executes graph resolve support limit task depth session calls result final)
    (holds : invariant session) :
    invariant final := by
  have anywhere : StepInvariantAt Set.univ resolve support invariant :=
    { dispatched := fun node session _ => stepInvariant.dispatched node session
      kept := fun id outcome session _ => stepInvariant.kept id outcome session
      bound := fun node item session _ => stepInvariant.bound node item session
      returned := fun node session _ => stepInvariant.returned node session
      alone := stepInvariant.alone }
  have stays : task.StaysAt Set.univ Set.univ := by
    cases task with
    | walk => trivial
    | flow | flowIfDeclared | handler | items => exact ⟨trivial, fun _ _ _ => trivial⟩
  exact execution.keeps_at graph.confines_univ anywhere stays holds

/-- What each move keeps, a built-in handler keeps, with all the walks that it starts. -/
theorem StepInvariant.perform
    (stepInvariant : StepInvariant resolve support invariant)
    (builtin : Builtin)
    (node : Node)
    (depth : Int)
    {session : Session ω}
    (holds : invariant session) :
    invariant (builtin.perform support ⟨node, depth⟩
      (subflowAt graph (builtins resolve support) limit depth) session).2 := by
  have halts : Halts graph resolve support limit (.handler builtin node) depth session :=
    halts_handler (flowsHalt depth) builtin node session
  obtain ⟨calls, answer, final, execution⟩ := halts
  have computed := execution.compute_eq
  rw [Task.compute] at computed
  rw [computed]
  exact execution.keeps stepInvariant holds

/-- What each move keeps, carrying out a node keeps. -/
theorem StepInvariant.visit
    (stepInvariant : StepInvariant resolve support invariant)
    {node : Node}
    {depth : Int}
    {session final : Session ω}
    {result : Except Fault (Option Outcome)}
    (visited :
      visit (builtins resolve support)
        (subflowAt graph (builtins resolve support) limit depth) depth node session =
          (result, final))
    (holds : invariant session) :
    invariant final := by
  rw [visit_prepare] at visited
  rcases moved : prepare (builtins resolve support) node session with
    ⟨fault | _ | ⟨builtin, data⟩, ready⟩
  all_goals
    have prepared : invariant ready := by
      rw [eq_dispatched_of_prepare moved]
      exact stepInvariant.dispatched node session holds
    rw [moved] at visited
  · cases visited
    exact prepared
  · cases visited
    exact prepared
  · have performed : invariant (builtin.perform support ⟨node.withData data, depth⟩
        (subflowAt graph (builtins resolve support) limit depth) ready).2 :=
      stepInvariant.perform builtin (node.withData data) depth prepared
    simp only at visited
    split at visited
    · cases visited
      exact performed
    · cases visited
      exact stepInvariant.kept _ _ _ performed

/-- What each move keeps holds wherever a walk arrives. -/
theorem Arrives.keeps
    (stepInvariant : StepInvariant resolve support invariant)
    {depth : Int}
    {start current : String}
    {session reached : Session ω}
    {steps : List Step}
    (arrived :
      Arrives graph (builtins resolve support)
        (subflowAt graph (builtins resolve support) limit depth) depth start session
        steps current reached)
    (holds : invariant session) :
    invariant reached := by
  induction arrived with
  | here => exact holds
  | onward _ _ _ visited _ inductionHypothesis =>
      exact stepInvariant.visit visited inductionHypothesis

end Walk
end RequestFlow
