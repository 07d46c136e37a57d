import RequestFlow.Walk.Basic

/-!
# How a walk proceeds

A walk arrives at one node after another. Before each arrival it has carried out a number of steps
and left a session behind. The relation `Arrives` lists these arrivals, `Ends` the four ways in
which a walk comes to its end, and `Fails` the one in which it is cut off. The walk that is computed
ends or fails in one of these ways.
-/

namespace RequestFlow
namespace Walk

variable {ω η : Type}
  {graph : Graph} {handlers : Handlers ω η} {subflow : Subflow ω} {depth : Int}
  {start : String} {session : Session ω}

/-! ## One step -/

/-- A node that has been visited ends the walk. -/
theorem onward_of_mem
    {visited : List String}
    {current : String}
    (seen : current ∈ visited) :
    onward graph handlers subflow depth visited current =
      pure { start := current, stop := .cycle } := by
  rw [onward, dif_pos seen]

/-- An id without a node ends the walk. -/
theorem onward_of_missing
    {visited : List String}
    {current : String}
    (fresh : current ∉ visited)
    (missing : graph.find? current = none) :
    onward graph handlers subflow depth visited current =
      pure { start := current, stop := .missingNode } := by
  rw [onward, dif_neg fresh]
  split
  · rfl
  · simp_all

/-- A new node is carried out, and its outcome says how the walk goes on. -/
theorem onward_of_found
    {visited : List String}
    {current : String}
    {node : Node}
    (fresh : current ∉ visited)
    (found : graph.find? current = some node) :
    onward graph handlers subflow depth visited current =
      (visit handlers subflow depth node >>= fun
        | none => pure { start := current, stop := .unresolvedHandler node.typeTag node.id }
        | some outcome =>
          match node.next? outcome.output with
          | none => pure { start := current, steps := [⟨node.id, outcome⟩], stop := .deadEnd }
          | some target => do
            let rest ← onward graph handlers subflow depth (current :: visited) target
            pure (rest.after ⟨node.id, outcome⟩)) := by
  rw [onward, dif_neg fresh]
  split
  · simp_all
  · next other otherFound =>
      obtain rfl : other = node := by simpa [found] using otherFound.symm
      rfl

/-! ## Arrivals -/

/-- After carrying out the steps, the walk from `start` in `session` is about to look at the id that
is given, in the session that is given. -/
inductive Arrives
    (graph : Graph)
    (handlers : Handlers ω η)
    (subflow : Subflow ω)
    (depth : Int)
    (start : String)
    (session : Session ω) : List Step → String → Session ω → Prop
  | here : Arrives graph handlers subflow depth start session [] start session
  | onward {steps current reached node outcome target final} :
      Arrives graph handlers subflow depth start session steps current reached →
      current ∉ steps.map (·.node) →
      graph.find? current = some node →
      visit handlers subflow depth node reached = (.ok (some outcome), final) →
      node.next? outcome.output = some target →
      Arrives graph handlers subflow depth start session
        (steps ++ [⟨node.id, outcome⟩]) target final

/-- The walk from `start` in `session` ends after the steps, for the reason, and in the session that
are given. -/
inductive Ends
    (graph : Graph)
    (handlers : Handlers ω η)
    (subflow : Subflow ω)
    (depth : Int)
    (start : String)
    (session : Session ω) : List Step → Stop → Session ω → Prop
  | cycle {steps current reached} :
      Arrives graph handlers subflow depth start session steps current reached →
      current ∈ steps.map (·.node) →
      Ends graph handlers subflow depth start session steps .cycle reached
  | missingNode {steps current reached} :
      Arrives graph handlers subflow depth start session steps current reached →
      current ∉ steps.map (·.node) →
      graph.find? current = none →
      Ends graph handlers subflow depth start session steps .missingNode reached
  | unresolvedHandler {steps current reached node final} :
      Arrives graph handlers subflow depth start session steps current reached →
      current ∉ steps.map (·.node) →
      graph.find? current = some node →
      visit handlers subflow depth node reached = (.ok none, final) →
      Ends graph handlers subflow depth start session steps
        (.unresolvedHandler node.typeTag node.id) final
  | deadEnd {steps current reached node outcome final} :
      Arrives graph handlers subflow depth start session steps current reached →
      current ∉ steps.map (·.node) →
      graph.find? current = some node →
      visit handlers subflow depth node reached = (.ok (some outcome), final) →
      node.next? outcome.output = none →
      Ends graph handlers subflow depth start session
        (steps ++ [⟨node.id, outcome⟩]) .deadEnd final

/-- The walk from `start` in `session` is cut off by a fault when it carries out a node at which it
has arrived. -/
def Fails
    (graph : Graph)
    (handlers : Handlers ω η)
    (subflow : Subflow ω)
    (depth : Int)
    (start : String)
    (session : Session ω)
    (fault : Fault)
    (final : Session ω) : Prop :=
  ∃ steps current reached node,
    Arrives graph handlers subflow depth start session steps current reached ∧
    current ∉ steps.map (·.node) ∧
    graph.find? current = some node ∧
    visit handlers subflow depth node reached = (.error fault, final)

/-- What the rest of a walk comes to, after the steps that led to where it starts. -/
def Concludes
    (graph : Graph)
    (handlers : Handlers ω η)
    (subflow : Subflow ω)
    (depth : Int)
    (start : String)
    (session : Session ω)
    (steps : List Step) : Except Fault Traversal × Session ω → Prop
  | (.ok rest, final) =>
      Ends graph handlers subflow depth start session (steps ++ rest.steps) rest.stop final
  | (.error fault, final) => Fails graph handlers subflow depth start session fault final

/-- From where a walk has arrived, its rest ends or fails as the whole walk does. -/
theorem concludes_onward
    {visited : List String}
    {current : String}
    {steps : List Step}
    {reached : Session ω}
    (arrived : Arrives graph handlers subflow depth start session steps current reached)
    (same : ∀ id, id ∈ visited ↔ id ∈ steps.map (·.node)) :
    Concludes graph handlers subflow depth start session steps
      (onward graph handlers subflow depth visited current reached) := by
  -- The unvisited nodes are the measure of the walk, so its own recursion is the induction.
  induction visited, current using onward.induct graph
    generalizing steps reached with
  | case1 visited current seen =>
      rw [onward_of_mem seen]
      simpa [Concludes] using Ends.cycle arrived ((same current).1 seen)
  | case2 visited current fresh missing =>
      have new : current ∉ steps.map (·.node) := fun seen => fresh ((same current).2 seen)
      rw [onward_of_missing fresh missing]
      simpa [Concludes] using Ends.missingNode arrived new missing
  | case3 visited current fresh node found inductionHypothesis =>
      have new : current ∉ steps.map (·.node) := fun seen => fresh ((same current).2 seen)
      have known : node.id = current := Graph.id_of_find? found
      rw [onward_of_found fresh found, Transition.bind_apply]
      cases visited_eq : visit handlers subflow depth node reached with
      | mk result final =>
          cases result with
          | error fault => exact ⟨steps, current, reached, node, arrived, new, found, visited_eq⟩
          | ok carried =>
              cases carried with
              | none =>
                  simpa [Concludes] using Ends.unresolvedHandler arrived new found visited_eq
              | some outcome =>
                  cases next_eq : node.next? outcome.output with
                  | none =>
                      simpa [Concludes, next_eq] using
                        Ends.deadEnd arrived new found visited_eq next_eq
                  | some target =>
                      have further := inductionHypothesis target
                        (arrived.onward new found visited_eq next_eq)
                        (by intro id; simp [same id, known, or_comm])
                      simp only [next_eq, Transition.bind_apply]
                      cases rest_eq : onward graph handlers subflow depth
                          (current :: visited) target final with
                      | mk rest last =>
                          rw [rest_eq] at further
                          cases rest with
                          | error fault => exact further
                          | ok rest => simpa [Concludes, Traversal.after] using further

/-- A walk ends or is cut off after steps that began in its own session. -/
theorem concludes_run
    (limit : Int) :
    Concludes graph handlers (subflowAt graph handlers limit depth) depth start session []
      (run graph handlers limit depth start session) :=
  concludes_onward .here (by simp)

/-- A walk that gives a record ends with the steps and for the reason in it. -/
theorem ends_of_run
    {limit : Int}
    {traversal : Traversal}
    {final : Session ω}
    (ran : run graph handlers limit depth start session = (.ok traversal, final)) :
    Ends graph handlers (subflowAt graph handlers limit depth) depth start session
      traversal.steps traversal.stop final := by
  have concludes : Concludes graph handlers (subflowAt graph handlers limit depth) depth start
      session [] (run graph handlers limit depth start session) := concludes_run limit
  rw [ran] at concludes
  simpa [Concludes] using concludes

/-- A walk that gives a fault is cut off at a node at which it has arrived. -/
theorem fails_of_run
    {limit : Int}
    {fault : Fault}
    {final : Session ω}
    (ran : run graph handlers limit depth start session = (.error fault, final)) :
    Fails graph handlers (subflowAt graph handlers limit depth) depth start session
      fault final := by
  have concludes : Concludes graph handlers (subflowAt graph handlers limit depth) depth start
      session [] (run graph handlers limit depth start session) := concludes_run limit
  rw [ran] at concludes
  exact concludes

end Walk
end RequestFlow
