import RequestFlow.Proofs.Walk.Arrival
import RequestFlow.Proofs.Walk.Execution

/-!
# Every walk finishes within its levels

Walks and loops call each other, and a graph may lead from the body of a loop back into it. An
execution exists all the same: by induction on the levels between the depth and the limit, on the
nodes not yet visited at one level, and on the items left at one node. It is the one that is
computed, and the handlers in it run between the depth it started at and the limit.
-/

namespace RequestFlow
namespace Walk

variable {ω : Type}
  {graph : Graph} {resolve : String → Transition ω (Option Builtin)}
  {support : Rules.Support} {limit : Int}

/-! ## The execution is the one that is computed -/

/-- What is computed for a part of a walk. -/
def Task.compute
    (graph : Graph)
    (resolve : String → Transition ω (Option Builtin))
    (support : Rules.Support)
    (limit depth : Int) :
    (task : Task) → Transition (Session ω) task.Result
  | .walk visited current =>
      Walk.onward graph (builtins resolve support)
        (subflowAt graph (builtins resolve support) limit depth) depth visited current
  | .flow node output => subflowAt graph (builtins resolve support) limit depth node output
  | .flowIfDeclared node output =>
      Nodes.walkIfDeclared (subflowAt graph (builtins resolve support) limit depth) node output
  | .handler builtin node =>
      builtin.perform support ⟨node, depth⟩
        (subflowAt graph (builtins resolve support) limit depth)
  | .items node processed rest =>
      Nodes.eachItem (subflowAt graph (builtins resolve support) limit depth) node processed rest

/-- Whatever is executed by the rules is what is computed. -/
theorem Executes.compute_eq
    {task : Task}
    {depth : Int}
    {session final : Session ω}
    {calls : List Call}
    {result : Except Fault task.Result}
    (execution :
      Executes graph resolve support limit task depth session calls result final) :
    task.compute graph resolve support limit depth session = (result, final) := by
  induction execution with
  | cycle seen => rw [Task.compute, onward_of_mem seen]; rfl
  | missingNode fresh missing => rw [Task.compute, onward_of_missing fresh missing]; rfl
  | unprepared fresh found prepared =>
      rw [Task.compute, onward_of_found fresh found, Transition.bind_apply, visit_prepare, prepared]
  | unresolvedHandler fresh found prepared =>
      rw [Task.compute, onward_of_found fresh found, Transition.bind_apply, visit_prepare, prepared]
      rfl
  | failed fresh found prepared _ settled inductionHypothesis =>
      rw [Task.compute] at inductionHypothesis
      rw [Task.compute, onward_of_found fresh found, Transition.bind_apply, visit_prepare, prepared]
      simp only [builtins] at inductionHypothesis ⊢
      simp only [inductionHypothesis, settled]
  | deadEnd fresh found prepared _ settled next inductionHypothesis =>
      rw [Task.compute] at inductionHypothesis
      rw [Task.compute, onward_of_found fresh found, Transition.bind_apply, visit_prepare, prepared]
      simp only [builtins] at inductionHypothesis ⊢
      simp only [inductionHypothesis, settled, next]
      rfl
  | onward fresh found prepared _ settled next _ inductionHypothesis further =>
      rw [Task.compute] at inductionHypothesis
      rw [Task.compute] at further
      rw [Task.compute, onward_of_found fresh found, Transition.bind_apply, visit_prepare, prepared]
      simp only [builtins] at inductionHypothesis further ⊢
      simp only [inductionHypothesis, settled, next, Transition.bind_apply, further]
      split
      · next walked => cases walked; rfl
      · next broken => cases broken; rfl
  | unwired unwired => rw [Task.compute, subflowAt_unwired unwired]; rfl
  | refused wired deep => rw [Task.compute, subflowAt_refused wired deep]; rfl
  | flowFailed wired shallow _ inductionHypothesis =>
      rw [Task.compute] at inductionHypothesis
      rw [Task.compute, subflowAt_walked wired shallow]
      exact Transition.bind_of_error inductionHypothesis _
  | flowWalked wired shallow _ inductionHypothesis =>
      rw [Task.compute] at inductionHypothesis
      rw [Task.compute, subflowAt_walked wired shallow]
      exact Transition.bind_of_ok inductionHypothesis _
  | undeclared undeclared => rw [Task.compute, Nodes.walkIfDeclared_apply, undeclared]; rfl
  | declared declared _ inductionHypothesis =>
      rw [Task.compute] at inductionHypothesis
      rw [Task.compute, Nodes.walkIfDeclared_apply, if_pos declared, inductionHypothesis]
  | alone _ same => exact same _
  | loopUnread unread =>
      rw [Task.compute, Builtin.perform, Nodes.loop_apply, unread]
  | loopFailedBefore read _ inductionHypothesis =>
      rw [Task.compute] at inductionHypothesis
      rw [Task.compute, Builtin.perform, Nodes.loop_apply, read]
      simp only [inductionHypothesis]
  | loopStarted read _ _ inductionHypothesis further =>
      rw [Task.compute] at inductionHypothesis
      rw [Task.compute] at further
      rw [Task.compute, Builtin.perform, Nodes.loop_apply, read]
      simp only [inductionHypothesis, further]
  | finished => rfl
  | itemFailed _ inductionHypothesis =>
      rw [Task.compute] at inductionHypothesis
      rw [Task.compute, Nodes.eachItem_cons, inductionHypothesis]
  | itemDone _ _ inductionHypothesis further =>
      rw [Task.compute] at inductionHypothesis
      rw [Task.compute] at further
      rw [Task.compute, Nodes.eachItem_cons, inductionHypothesis]
      exact further

/-! ## The levels of the handlers -/

/-- The handlers that are called run between the depth of the walk and the limit. -/
theorem Executes.depth_le
    {task : Task}
    {depth : Int}
    {session final : Session ω}
    {calls : List Call}
    {result : Except Fault task.Result}
    (execution :
      Executes graph resolve support limit task depth session calls result final) :
    ∀ call ∈ calls, depth ≤ call.depth ∧ call.depth ≤ max depth limit := by
  have own : ∀ depth : Int, depth ≤ depth ∧ depth ≤ max depth limit := by
    intro depth
    omega
  induction execution with
  | cycle | missingNode | unprepared | unresolvedHandler | unwired | refused | undeclared
  | finished => exact List.forall_mem_nil _
  | failed _ _ _ _ _ inductionHypothesis => exact inductionHypothesis
  | deadEnd _ _ _ _ _ _ inductionHypothesis => exact inductionHypothesis
  | declared _ _ inductionHypothesis => exact inductionHypothesis
  | itemFailed _ inductionHypothesis => exact inductionHypothesis
  | onward _ _ _ _ _ _ _ inductionHypothesis further =>
      exact List.forall_mem_append.2 ⟨inductionHypothesis, further⟩
  | itemDone _ _ inductionHypothesis further =>
      exact List.forall_mem_append.2 ⟨inductionHypothesis, further⟩
  | flowFailed _ shallow _ inductionHypothesis =>
      -- The walk is one level deeper, and that level is still within the limit.
      intro call member
      have within := inductionHypothesis call member
      omega
  | flowWalked _ shallow _ inductionHypothesis =>
      intro call member
      have within := inductionHypothesis call member
      omega
  | alone | loopUnread => exact List.forall_mem_singleton.2 (own _)
  | loopFailedBefore _ _ inductionHypothesis =>
      exact List.forall_mem_cons.2 ⟨own _, inductionHypothesis⟩
  | loopStarted _ _ _ inductionHypothesis further =>
      have walked := List.forall_mem_append.2 ⟨inductionHypothesis, further⟩
      exact List.forall_mem_cons.2 ⟨own _, walked⟩

/-! ## An execution exists -/

/-- A part of a walk has an execution. -/
def Halts
    (graph : Graph)
    (resolve : String → Transition ω (Option Builtin))
    (support : Rules.Support)
    (limit : Int)
    (task : Task)
    (depth : Int)
    (session : Session ω) : Prop :=
  ∃ calls result final, Executes graph resolve support limit task depth session calls result final

/-- The walks at outputs, from every session, have executions at a depth. -/
def FlowsHalt
    (graph : Graph)
    (resolve : String → Transition ω (Option Builtin))
    (support : Rules.Support)
    (limit depth : Int) : Prop :=
  ∀ node output session, Halts graph resolve support limit (.flow node output) depth session

section Level

variable {depth : Int} (flows : FlowsHalt graph resolve support limit depth)

include flows

theorem halts_flowIfDeclared
    (node : Node)
    (output : String)
    (session : Session ω) :
    Halts graph resolve support limit (.flowIfDeclared node output) depth session := by
  cases declared : node.hasOutput output with
  | false => exact ⟨_, _, _, .undeclared declared⟩
  | true =>
      obtain ⟨calls, result, final, execution⟩ := flows node (some output) session
      exact ⟨_, _, _, .declared declared execution⟩

/-- The items left are the measure of a loop. -/
theorem halts_items
    (node : Node)
    (rest : List Nodes.Item)
    (processed : Nat)
    (session : Session ω) :
    Halts graph resolve support limit (.items node processed rest) depth session := by
  induction rest generalizing processed session with
  | nil => exact ⟨_, _, _, .finished⟩
  | cons item rest inductionHypothesis =>
      obtain ⟨calls, walked, after, execution⟩ :=
        halts_flowIfDeclared flows node "inLoop" (Nodes.bound node item session)
      cases walked with
      | error fault => exact ⟨_, _, _, .itemFailed execution⟩
      | ok done =>
          obtain ⟨further, answer, final, continued⟩ := inductionHypothesis (processed + 1) after
          exact ⟨_, _, _, .itemDone execution continued⟩

theorem halts_loop
    (node : Node)
    (session : Session ω) :
    Halts graph resolve support limit (.handler .loop node) depth session := by
  cases read : Nodes.loopItems (node.data.get "items") with
  | error fault => exact ⟨_, _, _, .loopUnread read⟩
  | ok items =>
      obtain ⟨calls, walked, after, execution⟩ :=
        halts_flowIfDeclared flows node "beforeLoop" session
      cases walked with
      | error fault => exact ⟨_, _, _, .loopFailedBefore read execution⟩
      | ok done =>
          obtain ⟨further, answer, final, continued⟩ := halts_items flows node items 0 after
          exact ⟨_, _, _, .loopStarted read execution continued⟩

/-- Every built-in handler answers or fails. -/
theorem halts_handler
    (builtin : Builtin)
    (node : Node)
    (session : Session ω) :
    Halts graph resolve support limit (.handler builtin node) depth session := by
  cases builtin with
  | loop => exact halts_loop flows node session
  | assignment => exact ⟨_, _, _, .alone (by decide) fun _ => rfl⟩
  | entry => exact ⟨_, _, _, .alone (by decide) fun _ => rfl⟩
  | response => exact ⟨_, _, _, .alone (by decide) fun _ => rfl⟩
  | validation => exact ⟨_, _, _, .alone (by decide) fun _ => rfl⟩

/-- The nodes not yet visited are the measure of a walk at one level. -/
theorem halts_walk
    (visited : List String)
    (current : String)
    (session : Session ω) :
    Halts graph resolve support limit (.walk visited current) depth session := by
  induction visited, current using onward.induct graph generalizing session with
  | case1 visited current seen => exact ⟨_, _, _, .cycle seen⟩
  | case2 visited current fresh missing => exact ⟨_, _, _, .missingNode fresh missing⟩
  | case3 visited current fresh node found inductionHypothesis =>
      rcases prepared : prepare (builtins resolve support) node session with
        ⟨fault | _ | ⟨builtin, data⟩, ready⟩
      · exact ⟨_, _, _, .unprepared fresh found prepared⟩
      · exact ⟨_, _, _, .unresolvedHandler fresh found prepared⟩
      · obtain ⟨calls, answer, after, execution⟩ :=
          halts_handler flows builtin (node.withData data) ready
        cases settled : settle node answer with
        | error fault => exact ⟨_, _, _, .failed fresh found prepared execution settled⟩
        | ok outcome =>
            cases next : node.next? outcome.output with
            | none => exact ⟨_, _, _, .deadEnd fresh found prepared execution settled next⟩
            | some target =>
                obtain ⟨further, rest, final, continued⟩ :=
                  inductionHypothesis target (kept node.id outcome after)
                exact ⟨_, _, _, .onward fresh found prepared execution settled next continued⟩

end Level

/-- The levels between the depth and the limit are the measure of the walks inside walks. -/
theorem flowsHalt
    (depth : Int) :
    FlowsHalt graph resolve support limit depth := by
  induction levels : levelsLeft limit depth generalizing depth with
  | zero =>
      intro node output session
      have deep : limit ≤ depth := by
        unfold levelsLeft at levels
        omega
      cases wired : node.next? output with
      | none => exact ⟨_, _, _, .unwired wired⟩
      | some start => exact ⟨_, _, _, .refused wired deep⟩
  | succ levels inductionHypothesis =>
      intro node output session
      have shallow : depth < limit := by
        unfold levelsLeft at levels
        omega
      have deeper : FlowsHalt graph resolve support limit (depth + 1) :=
        inductionHypothesis (depth + 1) (by unfold levelsLeft at levels ⊢; omega)
      cases wired : node.next? output with
      | none => exact ⟨_, _, _, .unwired wired⟩
      | some start =>
          obtain ⟨calls, walked, after, execution⟩ := halts_walk deeper [] start session
          cases walked with
          | error fault => exact ⟨_, _, _, .flowFailed wired shallow execution⟩
          | ok traversal => exact ⟨_, _, _, .flowWalked wired shallow execution⟩

/-! ## Finishing -/

/-- A part of a walk finishes in the given way and in no other, and every handler that is called on
the way runs between the given depth and the limit. -/
structure Finishes
    (graph : Graph)
    (resolve : String → Transition ω (Option Builtin))
    (support : Rules.Support)
    (limit : Int)
    (task : Task)
    (depth : Int)
    (session : Session ω)
    (result : Except Fault task.Result)
    (final : Session ω) : Prop where
  /-- There is an execution with this result. -/
  exists_execution :
    ∃ calls, Executes graph resolve support limit task depth session calls result final
  /-- No execution has another. -/
  unique : ∀ {calls other after},
    Executes graph resolve support limit task depth session calls other after →
      other = result ∧ after = final
  /-- Every call is within the levels. -/
  within_levels : ∀ {calls other after},
    Executes graph resolve support limit task depth session calls other after →
      ∀ call ∈ calls, depth ≤ call.depth ∧ call.depth ≤ max depth limit

/-- Every part of a walk finishes as it is computed. -/
theorem Halts.finishes
    {task : Task}
    {depth : Int}
    {session : Session ω}
    (halts : Halts graph resolve support limit task depth session) :
    Finishes graph resolve support limit task depth session
      (task.compute graph resolve support limit depth session).1
      (task.compute graph resolve support limit depth session).2 := by
  refine ⟨?_, ?_, Executes.depth_le⟩
  · obtain ⟨calls, result, final, execution⟩ := halts
    rw [execution.compute_eq]
    exact ⟨calls, execution⟩
  · intro calls other after execution
    rw [execution.compute_eq]
    exact ⟨rfl, rfl⟩

/-- The walk that is computed is executed. -/
theorem exists_executes_run
    (graph : Graph)
    (resolve : String → Transition ω (Option Builtin))
    (support : Rules.Support)
    (limit depth : Int)
    (start : String)
    (session : Session ω) :
    ∃ calls, Executes graph resolve support limit (.walk [] start) depth session calls
      (run graph (builtins resolve support) limit depth start session).1
      (run graph (builtins resolve support) limit depth start session).2 :=
  (halts_walk (flowsHalt depth) [] start session).finishes.exists_execution

/-- With built-in nodes every walk, and every walk at an output, finishes with a result or a fault,
whatever the graph, the limit and the depth; and no handler runs outside the levels between the
depth and the limit. -/
theorem finishes_run_and_subflow
    (graph : Graph)
    (resolve : String → Transition ω (Option Builtin))
    (support : Rules.Support)
    (limit depth : Int) :
    (∀ start session,
      Finishes graph resolve support limit (.walk [] start) depth session
        (run graph (builtins resolve support) limit depth start session).1
        (run graph (builtins resolve support) limit depth start session).2) ∧
    ∀ node output session,
      Finishes graph resolve support limit (.flow node output) depth session
        (subflowAt graph (builtins resolve support) limit depth node output session).1
        (subflowAt graph (builtins resolve support) limit depth node output session).2 := by
  have flows : FlowsHalt graph resolve support limit depth := flowsHalt depth
  constructor
  · intro start session
    exact (halts_walk flows [] start session).finishes
  · intro node output session
    exact (flows node output session).finishes

end Walk
end RequestFlow
