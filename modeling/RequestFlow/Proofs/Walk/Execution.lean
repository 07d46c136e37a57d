import RequestFlow.Nodes.Builtin
import RequestFlow.Proofs.Nodes.Loop
import RequestFlow.Proofs.Walk.Visit

/-!
# Executions without a bound on steps

What a walk with built-in nodes does is told here by rules, one for each way in which a part of it
ends. The rules compare the depth with the limit and count nothing else: there are no levels left
and no nodes left to visit. The walk that is computed has such an execution, and has no other.
-/

namespace RequestFlow
namespace Walk

variable {ω η : Type}

/-! ## The moves at a node -/

/-- What precedes the handler of a node: it is looked up, and the configuration is resolved. -/
def prepare
    (handlers : Handlers ω η)
    (node : Node) : Transition (Session ω) (Option (η × Fields)) := do
  Session.enterNode node.id
  match ← Session.outside (handlers.resolve node.typeTag) with
  | none => pure none
  | some handler =>
    let data ← resolveData node
    pure (some (handler, data))

/-- Preparing a node changes nothing but that the node is looked up. -/
theorem prepare_apply
    {handlers : Handlers ω η}
    {node : Node}
    {session : Session ω} :
    prepare handlers node session =
      (match (handlers.resolve node.typeTag session.world).1 with
        | .error fault => .error fault
        | .ok none => .ok none
        | .ok (some handler) =>
          (Template.resolveFields session.memory node.data).map fun data => some (handler, data),
        dispatched handlers node session) := by
  have moved :
      ({ session with
          trace := session.trace.put "node_id" (.text node.id)
          world := (handlers.resolve node.typeTag session.world).2 } : Session ω) =
        dispatched handlers node session := rfl
  unfold prepare
  simp only [Transition.bind_apply, Session.enterNode_apply, Session.outside_apply, moved]
  cases (handlers.resolve node.typeTag session.world).1 with
  | error fault => rfl
  | ok found =>
      cases found with
      | none => rfl
      | some handler =>
          simp only [Transition.bind_apply, resolveData_apply, dispatched_memory]
          cases Template.resolveFields session.memory node.data <;> rfl

/-- After preparing a node the session is the one in which its handler is called. -/
theorem eq_dispatched_of_prepare
    {handlers : Handlers ω η}
    {node : Node}
    {session ready : Session ω}
    {found : Except Fault (Option (η × Fields))}
    (prepared : prepare handlers node session = (found, ready)) :
    ready = dispatched handlers node session := by
  rw [prepare_apply] at prepared
  exact (congrArg Prod.snd prepared).symm

/-- What becomes of the answer of a handler. -/
def settle (node : Node) (answer : Except Fault Reply) : Except Fault Outcome :=
  (answer.bind Reply.toOutcome).mapError (Fault.leaving node.id node.typeTag)

/-- A handler answers, and its answer is settled. -/
theorem dispatch_apply
    {handlers : Handlers ω η}
    {subflow : Subflow ω}
    {depth : Int}
    {handler : η}
    {node : Node}
    {data : Fields}
    {ready : Session ω} :
    dispatch handlers subflow depth handler node.typeTag (node.withData data) ready =
      (settle node (handlers.perform handler ⟨node.withData data, depth⟩ subflow ready).1,
        (handlers.perform handler ⟨node.withData data, depth⟩ subflow ready).2) := by
  unfold dispatch
  rw [Transition.mapFault_apply, Transition.bind_apply]
  rcases handlers.perform handler ⟨node.withData data, depth⟩ subflow ready with
    ⟨fault | reply, after⟩
  · rfl
  · rfl

/-- A node is carried out once it has been prepared. -/
theorem visit_prepare
    {handlers : Handlers ω η}
    {subflow : Subflow ω}
    {depth : Int}
    {node : Node}
    {session : Session ω} :
    visit handlers subflow depth node session =
      match prepare handlers node session with
      | (.error fault, final) => (.error fault, final)
      | (.ok none, final) => (.ok none, final)
      | (.ok (some (handler, data)), ready) =>
        let (answer, after) :=
          handlers.perform handler ⟨node.withData data, depth⟩ subflow ready
        match settle node answer with
        | .error fault => (.error fault, after)
        | .ok outcome => (.ok (some outcome), kept node.id outcome after) := by
  rw [visit_apply, prepare_apply]
  rcases (handlers.resolve node.typeTag session.world).1 with fault | _ | handler
  · rfl
  · rfl
  · cases Template.resolveFields session.memory node.data with
    | error fault => rfl
    | ok data =>
        simp only [Except.map, dispatch_apply]
        split <;> simp_all

/-- The built-in nodes, found as `resolve` finds them. -/
def builtins
    (resolve : String → Transition ω (Option Builtin))
    (support : Rules.Support) : Handlers ω Builtin where
  resolve := resolve
  perform builtin := builtin.perform support

/-- The session in which a handler goes on after a walk that it started. -/
def returned (node : Node) (session : Session ω) : Session ω :=
  { session with trace := session.trace.put "node_id" (.text node.id) }

/-! ## Walks at outputs -/

section Flow

variable {graph : Graph} {handlers : Handlers ω η} {limit depth : Int}
  {node : Node} {output : Option String}

/-- An output that leads nowhere starts no walk. -/
theorem subflowAt_unwired
    (unwired : node.next? output = none) :
    subflowAt graph handlers limit depth node output = pure none := by
  unfold subflowAt
  cases levelsLeft limit depth <;> simp [subflow, unwired]

/-- At the limit no walk is started. -/
theorem subflowAt_refused
    {start : String}
    (wired : node.next? output = some start)
    (deep : limit ≤ depth) :
    subflowAt graph handlers limit depth node output = .fail (.tooDeep node.id limit) := by
  have none_left : levelsLeft limit depth = 0 := by
    unfold levelsLeft
    omega
  simp [subflowAt, none_left, subflow, wired]

/-- Below the limit the walk that is started is one level deeper. -/
theorem subflowAt_walked
    {start : String}
    (wired : node.next? output = some start)
    (shallow : depth < limit) :
    subflowAt graph handlers limit depth node output = (do
      let traversal ← run graph handlers limit (depth + 1) start
      Session.enterNode node.id
      pure (some traversal)) := by
  have one_less : levelsLeft limit depth = levelsLeft limit (depth + 1) + 1 := by
    unfold levelsLeft
    omega
  simp [subflowAt, one_less, subflow, wired, run]

end Flow

/-! ## Rules -/

/-- The parts of a walk: walking on after the visited nodes, the walk at an output of a node, the
same if the output is declared, the handler of a node, and the remaining items of a loop. -/
inductive Task
  | walk (visited : List String) (current : String)
  | flow (node : Node) (output : Option String)
  | flowIfDeclared (node : Node) (output : String)
  | handler (builtin : Builtin) (node : Node)
  | items (node : Node) (processed : Nat) (rest : List Nodes.Item)

/-- What a part of a walk gives when it does not fail. -/
abbrev Task.Result : Task → Type
  | .walk _ _ => Traversal
  | .flow _ _ => Option Traversal
  | .flowIfDeclared _ _ => Unit
  | .handler _ _ => Reply
  | .items _ _ _ => Reply

/-- A part of a walk, started at a depth in a session, ends with a result or a fault in a session,
after the handlers have been called that are listed. -/
inductive Executes
    (graph : Graph)
    (resolve : String → Transition ω (Option Builtin))
    (support : Rules.Support)
    (limit : Int) :
    (task : Task) → Int → Session ω → List Call → Except Fault task.Result → Session ω → Prop
  | cycle {visited current depth session} :
      current ∈ visited →
      Executes graph resolve support limit (.walk visited current) depth session
        [] (.ok { start := current, stop := .cycle }) session
  | missingNode {visited current depth session} :
      current ∉ visited →
      graph.find? current = none →
      Executes graph resolve support limit (.walk visited current) depth session
        [] (.ok { start := current, stop := .missingNode }) session
  | unprepared {visited current depth session node fault final} :
      current ∉ visited →
      graph.find? current = some node →
      prepare (builtins resolve support) node session = (.error fault, final) →
      Executes graph resolve support limit (.walk visited current) depth session
        [] (.error fault) final
  | unresolvedHandler {visited current depth session node final} :
      current ∉ visited →
      graph.find? current = some node →
      prepare (builtins resolve support) node session = (.ok none, final) →
      Executes graph resolve support limit (.walk visited current) depth session
        [] (.ok { start := current, stop := .unresolvedHandler node.typeTag node.id }) final
  | failed {visited current depth session node builtin data ready calls answer fault final} :
      current ∉ visited →
      graph.find? current = some node →
      prepare (builtins resolve support) node session = (.ok (some (builtin, data)), ready) →
      Executes graph resolve support limit (.handler builtin (node.withData data)) depth ready
        calls answer final →
      settle node answer = .error fault →
      Executes graph resolve support limit (.walk visited current) depth session
        calls (.error fault) final
  | deadEnd {visited current depth session node builtin data ready calls answer after outcome} :
      current ∉ visited →
      graph.find? current = some node →
      prepare (builtins resolve support) node session = (.ok (some (builtin, data)), ready) →
      Executes graph resolve support limit (.handler builtin (node.withData data)) depth ready
        calls answer after →
      settle node answer = .ok outcome →
      node.next? outcome.output = none →
      Executes graph resolve support limit (.walk visited current) depth session
        calls (.ok { start := current, steps := [⟨node.id, outcome⟩], stop := .deadEnd })
        (kept node.id outcome after)
  | onward {visited current depth session node builtin data ready calls answer after outcome
      target further rest final} :
      current ∉ visited →
      graph.find? current = some node →
      prepare (builtins resolve support) node session = (.ok (some (builtin, data)), ready) →
      Executes graph resolve support limit (.handler builtin (node.withData data)) depth ready
        calls answer after →
      settle node answer = .ok outcome →
      node.next? outcome.output = some target →
      Executes graph resolve support limit (.walk (current :: visited) target) depth
        (kept node.id outcome after) further rest final →
      Executes graph resolve support limit (.walk visited current) depth session
        (calls ++ further) (rest.map (Traversal.after ⟨node.id, outcome⟩)) final
  | unwired {node output depth session} :
      node.next? output = none →
      Executes graph resolve support limit (.flow node output) depth session
        [] (.ok none) session
  | refused {node output depth session start} :
      node.next? output = some start →
      limit ≤ depth →
      Executes graph resolve support limit (.flow node output) depth session
        [] (.error (.tooDeep node.id limit)) session
  | flowFailed {node output depth session start calls fault final} :
      node.next? output = some start →
      depth < limit →
      Executes graph resolve support limit (.walk [] start) (depth + 1) session
        calls (.error fault) final →
      Executes graph resolve support limit (.flow node output) depth session
        calls (.error fault) final
  | flowWalked {node output depth session start calls traversal after} :
      node.next? output = some start →
      depth < limit →
      Executes graph resolve support limit (.walk [] start) (depth + 1) session
        calls (.ok traversal) after →
      Executes graph resolve support limit (.flow node output) depth session
        calls (.ok (some traversal)) (returned node after)
  | undeclared {node output depth session} :
      node.hasOutput output = false →
      Executes graph resolve support limit (.flowIfDeclared node output) depth session
        [] (.ok ()) session
  | declared {node output depth session calls result final} :
      node.hasOutput output = true →
      Executes graph resolve support limit (.flow node (some output)) depth session
        calls result final →
      Executes graph resolve support limit (.flowIfDeclared node output) depth session
        calls (result.map fun _ => ()) final
  | alone {builtin node depth session answer final} :
      builtin ≠ .loop →
      (∀ subflow, builtin.perform support ⟨node, depth⟩ subflow session = (answer, final)) →
      Executes graph resolve support limit (.handler builtin node) depth session
        [⟨node, depth⟩] answer final
  | loopUnread {node depth session fault} :
      Nodes.loopItems (node.data.get "items") = .error fault →
      Executes graph resolve support limit (.handler .loop node) depth session
        [⟨node, depth⟩] (.error fault) session
  | loopFailedBefore {node depth session items calls fault final} :
      Nodes.loopItems (node.data.get "items") = .ok items →
      Executes graph resolve support limit (.flowIfDeclared node "beforeLoop") depth session
        calls (.error fault) final →
      Executes graph resolve support limit (.handler .loop node) depth session
        (⟨node, depth⟩ :: calls) (.ok (Nodes.failedBefore fault)) final
  | loopStarted {node depth session items calls after further answer final} :
      Nodes.loopItems (node.data.get "items") = .ok items →
      Executes graph resolve support limit (.flowIfDeclared node "beforeLoop") depth session
        calls (.ok ()) after →
      Executes graph resolve support limit (.items node 0 items) depth after
        further answer final →
      Executes graph resolve support limit (.handler .loop node) depth session
        (⟨node, depth⟩ :: (calls ++ further)) answer final
  | finished {node depth session processed} :
      Executes graph resolve support limit (.items node processed []) depth session
        [] (.ok (Nodes.finished node processed)) session
  | itemFailed {node depth session processed item rest calls fault final} :
      Executes graph resolve support limit (.flowIfDeclared node "inLoop") depth
        (Nodes.bound node item session) calls (.error fault) final →
      Executes graph resolve support limit (.items node processed (item :: rest)) depth session
        calls (.ok (Nodes.failedAt item fault)) final
  | itemDone {node depth session processed item rest calls after further answer final} :
      Executes graph resolve support limit (.flowIfDeclared node "inLoop") depth
        (Nodes.bound node item session) calls (.ok ()) after →
      Executes graph resolve support limit (.items node (processed + 1) rest) depth after
        further answer final →
      Executes graph resolve support limit (.items node processed (item :: rest)) depth session
        (calls ++ further) answer final

end Walk
end RequestFlow
