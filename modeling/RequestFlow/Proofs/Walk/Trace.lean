import RequestFlow.Proofs.Nodes.Sequence
import RequestFlow.Proofs.Walk.Failure

/-!
# The trace after a walk at an output

A walk attributes what follows to one node after another, and changes nothing else in the trace.
The handler that has started it gets the trace back as it was, since the last step of a walk at an
output names the node of the handler again. A fault skips that step: the trace still names the node
at which the walk has failed when a loop reports the fault.
-/

namespace RequestFlow
namespace Walk

variable {ω : Type}
  {graph : Graph} {resolve : String → Transition ω (Option Builtin)}
  {support : Rules.Support} {limit depth : Int}
  {node : Node} {session final : Session ω}

/-! ## What all moves keep -/

/-- The trace names some node, and is the given one otherwise. -/
def Attributed
    (base : Trace)
    (session : Session ω) : Prop :=
  ∃ id, session.trace = base.put "node_id" (.text id)

/-- A trace names a node. -/
def Names
    (trace : Trace)
    (node : Node) : Prop :=
  trace.get? "node_id" = some (.text node.id)

theorem Names.attributed
    (names : Names session.trace node) :
    Attributed session.trace session :=
  ⟨node.id, (Assoc.put_of_get? names).symm⟩

/-- Naming another node makes the trace what it would be if that node had been named first. -/
theorem Attributed.put
    {base : Trace}
    (attributed : Attributed base session)
    (id : String) :
    session.trace.put "node_id" (.text id) = base.put "node_id" (.text id) := by
  obtain ⟨other, same⟩ := attributed
  rw [same, Assoc.put_put]

theorem kept_trace
    (id : String)
    (outcome : Outcome)
    (session : Session ω) :
    (kept id outcome session).trace = session.trace := by
  unfold kept
  cases outcome.payload <;> rfl

/-- Each move of a walk leaves the trace as it is, or names a node in it. -/
theorem stepInvariant_attributed
    (base : Trace) :
    StepInvariant resolve support (Attributed base) where
  dispatched node _ attributed := ⟨node.id, attributed.put node.id⟩
  kept id outcome session attributed := by
    rwa [Attributed, kept_trace]
  bound _ _ _ attributed := attributed
  returned node _ attributed := ⟨node.id, attributed.put node.id⟩
  alone notLoop performed attributed := by
    rwa [Attributed, Builtin.perform_trace notLoop performed]

/-! ## Walks at outputs -/

/-- A node at which a walk fails has changed nothing but that it was looked up. -/
theorem eq_dispatched_of_visit
    {subflow : Subflow ω}
    {fault : Fault}
    (failed : visit (builtins resolve support) subflow depth node session =
      (.error fault, final)) :
    final = dispatched (builtins resolve support) node session := by
  rcases visit_eq_error_iff.1 failed with
    ⟨-, rfl⟩ | ⟨builtin, -, ⟨-, rfl⟩ | ⟨data, -, broken⟩⟩
  · rfl
  · rfl
  · exact (eq_leaving_of_dispatch broken).1

/-- The walk from `start` is cut off by the fault at a node, where it has arrived in a session. -/
structure FailsAt
    (graph : Graph)
    (handlers : Handlers ω Builtin)
    (limit depth : Int)
    (start : String)
    (session : Session ω)
    (fault : Fault)
    (failed : Node)
    (final : Session ω) : Prop where
  /-- The walk arrives at the node, which it has not entered before, and the visit fails. -/
  arrives : ∃ steps reached,
    Arrives graph handlers (subflowAt graph handlers limit depth) depth start session
      steps failed.id reached ∧
    failed.id ∉ steps.map (·.node) ∧
    visit handlers (subflowAt graph handlers limit depth) depth failed reached =
      (.error fault, final)
  /-- The node is the one that is found for its id. -/
  found : graph.find? failed.id = some failed

theorem exists_failsAt
    {handlers : Handlers ω Builtin}
    {start : String}
    {fault : Fault}
    (ran : run graph handlers limit depth start session = (.error fault, final)) :
    ∃ failed, FailsAt graph handlers limit depth start session fault failed final := by
  obtain ⟨steps, current, reached, failed, arrived, fresh, found, visited⟩ := fails_of_run ran
  obtain rfl : failed.id = current := Graph.id_of_find? found
  exact ⟨failed, ⟨steps, reached, arrived, fresh, visited⟩, found⟩

/-- When a walk has failed at a node, the trace names that node. -/
theorem FailsAt.trace
    {base : Trace}
    {start : String}
    {fault : Fault}
    {failed : Node}
    (fails : FailsAt graph (builtins resolve support) limit depth start session fault failed
      final)
    (attributed : Attributed base session) :
    final.trace = base.put "node_id" (.text failed.id) := by
  obtain ⟨steps, reached, arrived, -, visited⟩ := fails.arrives
  have still : Attributed base reached := arrived.keeps (stepInvariant_attributed base) attributed
  rw [eq_dispatched_of_visit visited]
  exact still.put failed.id

/-- A trace that names a node stays as it is only if the same node is named. -/
theorem Names.put_eq_self_iff
    {trace : Trace}
    (names : Names trace node)
    (id : String) :
    trace.put "node_id" (.text id) = trace ↔ id = node.id := by
  constructor
  · intro same
    have named : (trace.put "node_id" (.text id)).get? "node_id" = some (.text id) :=
      Assoc.get?_put_self _ _ _
    rw [same, names] at named
    exact (Value.text.inj (Option.some.inj named)).symm
  · rintro rfl
    exact Assoc.put_of_get? names

section Flow

variable {output : Option String} {fault : Fault}

/-- The walk at an output that is computed is executed. -/
theorem exists_executes_flow
    {result : Except Fault (Option Traversal)}
    (walked : subflowAt graph (builtins resolve support) limit depth node output session =
      (result, final)) :
    ∃ calls, Executes graph resolve support limit (.flow node output) depth session calls result
      final := by
  obtain ⟨calls, ended, after, execution⟩ :
      Halts graph resolve support limit (.flow node output) depth session :=
    flowsHalt depth node output session
  obtain ⟨rfl, rfl⟩ := Prod.mk.inj (execution.compute_eq.symm.trans walked)
  exact ⟨calls, execution⟩

/-- After a walk at an output that is not cut off, the trace names the node of the output again. -/
theorem trace_of_ok
    {traversal : Option Traversal}
    (names : Names session.trace node)
    (walked : subflowAt graph (builtins resolve support) limit depth node output session =
      (.ok traversal, final)) :
    final.trace = session.trace := by
  obtain ⟨calls, execution⟩ := exists_executes_flow walked
  cases execution with
  | unwired => rfl
  | flowWalked _ _ walk =>
      have still := walk.keeps (stepInvariant_attributed session.trace) names.attributed
      exact (still.put node.id).trans (Assoc.put_of_get? names)

/-- A fault at an output is the refusal at the limit, or the fault of the walk that is started. -/
theorem refused_or_failsAt
    (walked : subflowAt graph (builtins resolve support) limit depth node output session =
      (.error fault, final)) :
    (limit ≤ depth ∧ final = session) ∨
      depth < limit ∧ ∃ start failed,
        node.next? output = some start ∧
        FailsAt graph (builtins resolve support) limit (depth + 1) start session fault failed
          final := by
  obtain ⟨calls, execution⟩ := exists_executes_flow walked
  cases execution with
  | refused _ deep => exact .inl ⟨deep, rfl⟩
  | flowFailed wired shallow walk =>
      obtain ⟨failed, fails⟩ := exists_failsAt walk.compute_eq
      exact .inr ⟨shallow, _, failed, wired, fails⟩

/-- A handler whose node the trace names has the trace as it was after each walk that it starts at
an output, be it that the walk ends, that the output leads nowhere or that the walk would be too
deep. If the walk is cut off by a fault, the trace names the node at which it failed, and is as it
was otherwise; so it is as it was exactly if that is the node of the handler. -/
theorem trace_of_subflowAt
    {result : Except Fault (Option Traversal)}
    (names : Names session.trace node)
    (walked : subflowAt graph (builtins resolve support) limit depth node output session =
      (result, final)) :
    (∀ traversal, result = .ok traversal → final.trace = session.trace) ∧
    (limit ≤ depth → final.trace = session.trace) ∧
    ∀ fault, result = .error fault → depth < limit →
      ∃ start failed,
        node.next? output = some start ∧
        FailsAt graph (builtins resolve support) limit (depth + 1) start session fault failed
          final ∧
        final.trace = session.trace.put "node_id" (.text failed.id) ∧
        (final.trace = session.trace ↔ failed.id = node.id) := by
  have succeeds : ∀ traversal, result = .ok traversal → final.trace = session.trace := by
    rintro traversal rfl
    exact trace_of_ok names walked
  refine ⟨succeeds, ?_, ?_⟩
  · intro deep
    cases result with
    | ok traversal => exact succeeds traversal rfl
    | error fault =>
        rcases refused_or_failsAt walked with ⟨-, rfl⟩ | ⟨shallow, -⟩
        · rfl
        · omega
  · rintro fault rfl shallow
    rcases refused_or_failsAt walked with ⟨deep, -⟩ | ⟨-, start, failed, wired, fails⟩
    · omega
    · have trace := fails.trace names.attributed
      refine ⟨start, failed, wired, fails, trace, ?_⟩
      rw [trace]
      exact names.put_eq_self_iff failed.id

end Flow

namespace Sample

/-- The session in which the loop is called. -/
def looping : Session (Registry Unit Builtin) :=
  dispatched plain each untouched

theorem flow_nameless :
    subflowAt faulty plain 32 0 each (some "inLoop") looping =
      (.error (.inHandler (.noVariableName "nameless") "nameless" "variable"),
        dispatched plain nameless looping) := by
  have known : looping.world.ExactlyBuiltins :=
    stepInvariant_exactlyBuiltins.dispatched each untouched
      (Registry.exactlyBuiltins_withBuiltins ())
  have walk := executes_nameless [] List.not_mem_nil (0 + 1) known
  exact (Executes.flowFailed (by rfl) (by decide) walk).compute_eq

theorem names_looping : Names looping.trace each := by
  rfl

end Sample

/-- The walk for an item of the loop fails, and the trace of its fault is found. -/
theorem trace_of_subflowAt_nameless :
    Names Sample.looping.trace Sample.each ∧
    ∃ fault final,
      subflowAt Sample.faulty Sample.plain 32 0 Sample.each (some "inLoop") Sample.looping =
        (.error fault, final) ∧
      ∃ start failed,
        Sample.each.next? (some "inLoop") = some start ∧
        FailsAt Sample.faulty Sample.plain 32 (0 + 1) start Sample.looping fault failed final ∧
        final.trace = Sample.looping.trace.put "node_id" (.text failed.id) := by
  obtain ⟨-, -, failing⟩ := trace_of_subflowAt Sample.names_looping Sample.flow_nameless
  obtain ⟨start, failed, wired, fails, trace, -⟩ := failing _ rfl (by decide)
  exact ⟨Sample.names_looping, _, _, Sample.flow_nameless, start, failed, wired, fails, trace⟩

/-- The loop goes on under a trace that names the node of the walk that has failed. -/
theorem trace_changed_nameless :
    Names Sample.looping.trace Sample.each ∧
    subflowAt Sample.faulty Sample.plain 32 0 Sample.each (some "inLoop") Sample.looping =
      (.error (.inHandler (.noVariableName "nameless") "nameless" "variable"),
        dispatched Sample.plain Sample.nameless Sample.looping) ∧
    (dispatched Sample.plain Sample.nameless Sample.looping).trace ≠ Sample.looping.trace := by
  refine ⟨Sample.names_looping, Sample.flow_nameless, ?_⟩
  intro same
  have other := (Sample.names_looping.put_eq_self_iff Sample.nameless.id).1 same
  exact absurd other (by decide)

/-! ## Loops -/

section Loop

open Nodes

variable {output : String} {ready reached : Session ω}

theorem trace_of_walkIfDeclared
    (names : Names session.trace node)
    (walked :
      walkIfDeclared (subflowAt graph (builtins resolve support) limit depth) node output
        session = (.ok (), final)) :
    final.trace = session.trace := by
  rw [walkIfDeclared_apply] at walked
  split at walked
  · rcases started : subflowAt graph (builtins resolve support) limit depth node (some output)
      session with ⟨fault | traversal, after⟩
    · simp [started, Except.map] at walked
    · rw [started] at walked
      cases walked
      exact trace_of_ok names started
  · cases walked
    rfl

/-- The loop hands on a trace that names the node at which a walk of its own has failed. -/
def HandsOn
    (graph : Graph)
    (handlers : Handlers ω Builtin)
    (limit depth : Int)
    (node : Node)
    (before final : Session ω) : Prop :=
  ∃ output start failed session fault,
    node.next? (some output) = some start ∧
    session.trace = before.trace ∧
    FailsAt graph handlers limit (depth + 1) start session fault failed final ∧
    final.trace = before.trace.put "node_id" (.text failed.id)

theorem handsOn_of_walkIfDeclared
    {fault : Fault}
    {before : Session ω}
    (names : Names before.trace node)
    (same : session.trace = before.trace)
    (walked :
      walkIfDeclared (subflowAt graph (builtins resolve support) limit depth) node output
        session = (.error fault, final)) :
    final.trace = before.trace ∨
      HandsOn graph (builtins resolve support) limit depth node before final := by
  rw [walkIfDeclared_apply] at walked
  split at walked
  · rcases started : subflowAt graph (builtins resolve support) limit depth node (some output)
      session with ⟨cause | traversal, after⟩
    · rw [started] at walked
      cases walked
      rcases refused_or_failsAt started with ⟨-, rfl⟩ | ⟨-, start, failed, wired, fails⟩
      · exact .inl same
      · refine .inr ⟨output, start, failed, session, _, wired, same, fails, ?_⟩
        rw [← same] at names ⊢
        exact fails.trace names.attributed
    · simp [started, Except.map] at walked
  · cases walked

/-- Going through items keeps the trace, as long as no walk for one of them fails. -/
theorem trace_of_carriesOut
    {items : List Item}
    (carried :
      CarriesOut
        (walkIfDeclared (subflowAt graph (builtins resolve support) limit depth) node "inLoop")
        node items session final)
    (names : Names session.trace node) :
    final.trace = session.trace := by
  induction carried with
  | nil => rfl
  | @cons item items session after final walked _ inductionHypothesis =>
      have same : after.trace = (bound node item session).trace :=
        trace_of_walkIfDeclared names walked
      have named : Names after.trace node := by
        rw [same]
        exact names
      exact (inductionHypothesis named).trans same

/-- A loop hands on the trace that it was called with, unless it leaves by `error`: then the trace
may name the node at which a walk of the loop has failed. -/
theorem trace_of_loop
    {answer : Except Fault Reply}
    (names : Names session.trace node)
    (looped :
      loop ⟨node, depth⟩ (subflowAt graph (builtins resolve support) limit depth) session =
        (answer, final)) :
    final.trace = session.trace ∨
      (∃ payload, answer = .ok (.leaveWith "error" payload)) ∧
        HandsOn graph (builtins resolve support) limit depth node session final := by
  cases read : loopItems (node.data.get "items") with
  | error fault =>
      rw [loop_apply, read] at looped
      cases looped
      exact .inl rfl
  | ok items =>
      obtain ⟨reply, after, loops⟩ := exists_loops
        (walkIfDeclared (subflowAt graph (builtins resolve support) limit depth) node
          "beforeLoop")
        (walkIfDeclared (subflowAt graph (builtins resolve support) limit depth) node "inLoop")
        node items session
      obtain ⟨rfl, rfl⟩ := Prod.mk.inj ((loop_of_loops read loops depth).symm.trans looped)
      cases loops with
      | failedBefore fails =>
          exact (handsOn_of_walkIfDeclared names rfl fails).imp_right (.intro ⟨_, rfl⟩)
      | @failedAt _ reached _ _ _ item _ begun _ carried fails =>
          have started := trace_of_walkIfDeclared names begun
          have still := trace_of_carriesOut carried (started ▸ names)
          have same : (bound node item reached).trace = session.trace := still.trans started
          exact (handsOn_of_walkIfDeclared names same fails).imp_right (.intro ⟨_, rfl⟩)
      | finished begun carried =>
          have started := trace_of_walkIfDeclared names begun
          exact .inl ((trace_of_carriesOut carried (started ▸ names)).trans started)

end Loop

end Walk
end RequestFlow
