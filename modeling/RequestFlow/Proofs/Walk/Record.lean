import Mathlib.Data.List.Chain
import Mathlib.Data.List.Permutation
import RequestFlow.Proofs.Walk.Arrival
import RequestFlow.Proofs.Walk.Visit

/-!
# What the record of a walk says

The nodes of a record form a trail: no node occurs twice, the first is where the walk started, and
each is where an output of the one before it leads. The trail determines which id lies ahead, and
that id determines why the walk stopped. Whatever the handlers do, the record agrees with the
session that the walk leaves behind.
-/

namespace RequestFlow

namespace Graph

/-- The output by which the first step was left leads to the node of the second. -/
def Joins
    (graph : Graph)
    (first second : Step) : Prop :=
  ∃ node, graph.find? first.node = some node ∧
    node.next? first.outcome.output = some second.node

/-- The id that lies ahead of a walk from `start` after some steps; none if the last outcome leads
nowhere. -/
def ahead?
    (graph : Graph)
    (start : String)
    (steps : List Step) : Option String :=
  match steps.getLast? with
  | none => some start
  | some last => (graph.find? last.node).bind (·.next? last.outcome.output)

@[simp] theorem ahead?_nil
    (graph : Graph)
    (start : String) :
    graph.ahead? start [] = some start := rfl

theorem ahead?_append
    {graph : Graph}
    {node : Node}
    (found : graph.find? node.id = some node)
    (start : String)
    (steps : List Step)
    (outcome : Outcome) :
    graph.ahead? start (steps ++ [⟨node.id, outcome⟩]) = node.next? outcome.output := by
  simp [ahead?, found]

/-- Steps along a graph: through nodes of the graph, none of them twice, from `start` on, and each
where an output of the one before leads. -/
structure IsTrail
    (graph : Graph)
    (start : String)
    (steps : List Step) : Prop where
  /-- No node is entered twice. -/
  nodup : (steps.map (·.node)).Nodup
  /-- Every node is one of the graph. -/
  known : ∀ step ∈ steps, graph.hasNode step.node = true
  /-- The first is the start. -/
  first : ∀ step ∈ steps.head?, step.node = start
  /-- An output leads from each to the next. -/
  joined : steps.IsChain graph.Joins

namespace IsTrail

variable {graph : Graph} {start : String} {steps : List Step} {node : Node}

theorem nil : graph.IsTrail start [] where
  nodup := by simp
  known := by simp
  first := by simp
  joined := by simp

/-- A trail is continued by a new node that lies ahead. -/
theorem append
    (trail : graph.IsTrail start steps)
    (fresh : node.id ∉ steps.map (·.node))
    (found : graph.find? node.id = some node)
    (ahead : graph.ahead? start steps = some node.id)
    (outcome : Outcome) :
    graph.IsTrail start (steps ++ [⟨node.id, outcome⟩]) where
  nodup := by
    rw [List.map_append, List.nodup_append]
    refine ⟨trail.nodup, by simp, ?_⟩
    intro id inside other last
    obtain rfl : other = node.id := by simpa using last
    intro equal
    exact fresh (equal ▸ inside)
  known := by
    intro step member
    rcases List.mem_append.1 member with inside | last
    · exact trail.known step inside
    · obtain rfl : step = ⟨node.id, outcome⟩ := by simpa using last
      simp [hasNode, found]
  first := by
    intro step head
    cases steps with
    | nil =>
        obtain rfl : (⟨node.id, outcome⟩ : Step) = step := by simpa using head
        simpa using ahead.symm
    | cons earlier rest => exact trail.first step (by simpa using head)
  joined := by
    refine trail.joined.append (List.isChain_singleton _) ?_
    intro last isLast next isNext
    obtain rfl : (⟨node.id, outcome⟩ : Step) = next := by simpa using isNext
    have last_eq : steps.getLast? = some last := isLast
    simp only [ahead?, last_eq, Option.bind_eq_some_iff] at ahead
    exact ahead

/-- Steps start at a node of the graph. -/
theorem eq_nil_of_missing
    (trail : graph.IsTrail start steps)
    (missing : graph.find? start = none) :
    steps = [] := by
  cases steps with
  | nil => rfl
  | cons step rest =>
      have first : step.node = start := trail.first step (by simp)
      have known := trail.known step (by simp)
      rw [first, hasNode, missing] at known
      simp at known

/-- An id on a trail is one of the graph. -/
theorem hasNode_of_mem
    {id : String}
    (trail : graph.IsTrail start steps)
    (member : id ∈ steps.map (·.node)) :
    graph.hasNode id = true := by
  obtain ⟨step, inside, rfl⟩ := List.mem_map.1 member
  exact trail.known step inside

end IsTrail
end Graph

namespace Walk

variable {ω η : Type}
  {graph : Graph} {handlers : Handlers ω η} {subflow : Subflow ω} {depth : Int}
  {start current : String} {session reached final : Session ω}
  {steps : List Step} {stop : Stop}

/-- The steps before an arrival form a trail, and where the walk arrives is what lies ahead. -/
theorem Arrives.trail
    (arrived : Arrives graph handlers subflow depth start session steps current reached) :
    graph.IsTrail start steps ∧ graph.ahead? start steps = some current := by
  induction arrived with
  | here => exact ⟨.nil, by simp⟩
  | @onward steps current reached node outcome target final _ fresh found _ next
      inductionHypothesis =>
      obtain ⟨trail, ahead⟩ := inductionHypothesis
      obtain rfl : node.id = current := Graph.id_of_find? found
      exact ⟨trail.append fresh found ahead outcome, by rw [Graph.ahead?_append found, next]⟩

/-- The payload of the last step is remembered when the walk arrives at what follows. -/
theorem Arrives.recorded
    (arrived : Arrives graph handlers subflow depth start session steps current reached)
    {last : Step}
    (isLast : steps.getLast? = some last)
    (given : last.outcome.payload ≠ .null) :
    reached.memory.output? last.node last.outcome.key = some last.outcome.payload := by
  cases arrived with
  | here => simp at isLast
  | @onward _ _ _ node outcome _ _ _ _ _ visited _ =>
      obtain rfl : (⟨node.id, outcome⟩ : Step) = last := by simpa using isLast
      obtain ⟨_, _, after, _, _, _, rfl⟩ := visit_eq_some_iff.1 visited
      exact output?_kept given node.id after

/-- A walk that has carried out nothing is where it started. -/
theorem Arrives.eq_of_nil
    (arrived : Arrives graph handlers subflow depth start session [] current reached) :
    current = start ∧ reached = session := by
  generalize empty : ([] : List Step) = steps at arrived
  cases arrived with
  | here => exact ⟨rfl, rfl⟩
  | onward => simp at empty

/-- The walk that carries out the steps goes on to a node for whose type there is no handler. -/
def Unhandled
    (graph : Graph)
    (handlers : Handlers ω η)
    (subflow : Subflow ω)
    (depth : Int)
    (start : String)
    (session : Session ω)
    (steps : List Step)
    (node : Node) : Prop :=
  graph.ahead? start steps = some node.id ∧
    node.id ∉ steps.map (·.node) ∧
    graph.find? node.id = some node ∧
    ∃ reached, Arrives graph handlers subflow depth start session steps node.id reached ∧
      (handlers.resolve node.typeTag reached.world).1 = .ok none

/-- What lies ahead of a walk that has carried out the steps and stopped for a reason. -/
def Outlook
    (graph : Graph)
    (handlers : Handlers ω η)
    (subflow : Subflow ω)
    (depth : Int)
    (start : String)
    (session : Session ω)
    (steps : List Step) : Stop → Prop
  | .deadEnd => graph.ahead? start steps = none
  | .cycle => ∃ id, graph.ahead? start steps = some id ∧ id ∈ steps.map (·.node)
  | .missingNode => ∃ id, graph.ahead? start steps = some id ∧ graph.hasNode id = false
  | .unresolvedHandler typeTag id => ∃ node,
      Unhandled graph handlers subflow depth start session steps node ∧
        typeTag = node.typeTag ∧ id = node.id

/-- The steps of a walk that has ended form a trail, and what lies ahead of them is the reason to
stop. -/
theorem Ends.outlook
    (ended : Ends graph handlers subflow depth start session steps stop final) :
    graph.IsTrail start steps ∧
      Outlook graph handlers subflow depth start session steps stop := by
  cases ended with
  | cycle arrived seen => exact ⟨arrived.trail.1, _, arrived.trail.2, seen⟩
  | missingNode arrived fresh missing =>
      exact ⟨arrived.trail.1, _, arrived.trail.2, by simp [Graph.hasNode, missing]⟩
  | unresolvedHandler arrived fresh found visited =>
      obtain rfl := Graph.id_of_find? found
      obtain ⟨unresolved, rfl⟩ := visit_eq_none_iff.1 visited
      exact ⟨arrived.trail.1, _,
        ⟨arrived.trail.2, fresh, found, _, arrived, unresolved⟩, rfl, rfl⟩
  | deadEnd arrived fresh found visited next =>
      obtain rfl := Graph.id_of_find? found
      obtain ⟨trail, ahead⟩ := arrived.trail
      exact ⟨trail.append fresh found ahead _, by rw [Outlook, Graph.ahead?_append found, next]⟩

/-- What lies ahead leaves one reason to stop. -/
theorem Outlook.unique
    {other : Stop}
    (trail : graph.IsTrail start steps)
    (first : Outlook graph handlers subflow depth start session steps stop)
    (second : Outlook graph handlers subflow depth start session steps other) :
    stop = other := by
  have known : ∀ id ∈ steps.map (·.node), graph.hasNode id = true :=
    fun id => trail.hasNode_of_mem
  have found : ∀ {node : Node}, graph.find? node.id = some node →
      graph.hasNode node.id = true := by
    intro node found
    simp [Graph.hasNode, found]
  cases stop <;> cases other <;> simp only [Outlook, Unhandled] at first second <;> grind

/-- The payload of the last step is remembered when the walk has ended. -/
theorem Ends.recorded
    (ended : Ends graph handlers subflow depth start session steps stop final)
    {last : Step}
    (isLast : steps.getLast? = some last)
    (given : last.outcome.payload ≠ .null) :
    final.memory.output? last.node last.outcome.key = some last.outcome.payload := by
  cases ended with
  | cycle arrived _ => exact arrived.recorded isLast given
  | missingNode arrived _ _ => exact arrived.recorded isLast given
  | unresolvedHandler arrived _ _ visited =>
      obtain ⟨_, rfl⟩ := visit_eq_none_iff.1 visited
      exact arrived.recorded isLast given
  | @deadEnd _ _ _ node outcome _ _ _ _ visited _ =>
      obtain rfl : (⟨node.id, outcome⟩ : Step) = last := by simpa using isLast
      obtain ⟨_, _, after, _, _, _, rfl⟩ := visit_eq_some_iff.1 visited
      exact output?_kept given node.id after

/-- A walk from an id that is no node ends where it began. -/
theorem Ends.untouched
    (ended : Ends graph handlers subflow depth start session steps stop final)
    (missing : graph.find? start = none) :
    steps = [] ∧ final = session := by
  have empty : steps = [] := ended.outlook.1.eq_nil_of_missing missing
  refine ⟨empty, ?_⟩
  cases ended with
  | cycle arrived seen => simp [empty] at seen
  | missingNode arrived _ _ =>
      rw [empty] at arrived
      exact arrived.eq_of_nil.2
  | unresolvedHandler arrived _ found _ =>
      rw [empty] at arrived
      obtain ⟨rfl, _⟩ := arrived.eq_of_nil
      simp [missing] at found
  | deadEnd => simp at empty

/-- What the record of a walk says about the graph, the registry of handlers, and the session that
the walk leaves behind. -/
structure Account
    (graph : Graph)
    (handlers : Handlers ω η)
    (subflow : Subflow ω)
    (depth : Int)
    (start : String)
    (session : Session ω)
    (traversal : Traversal)
    (final : Session ω) : Prop where
  /-- The steps follow the outputs of the graph from the start and enter no node twice. -/
  trail : graph.IsTrail start traversal.steps
  /-- The walk has reached a dead end exactly when nothing lies ahead. -/
  deadEnd_iff :
    traversal.stop = .deadEnd ↔ graph.ahead? start traversal.steps = none
  /-- The walk has closed a cycle exactly when a node of its path lies ahead. -/
  cycle_iff :
    traversal.stop = .cycle ↔
      ∃ id, graph.ahead? start traversal.steps = some id ∧ id ∈ traversal.path
  /-- A node is missing exactly when the id that lies ahead is none of the graph. -/
  missingNode_iff :
    traversal.stop = .missingNode ↔
      ∃ id, graph.ahead? start traversal.steps = some id ∧ graph.hasNode id = false
  /-- A type is unresolved exactly when a new node lies ahead for which there is no handler. -/
  unresolvedHandler_iff :
    (∃ typeTag id, traversal.stop = .unresolvedHandler typeTag id) ↔
      ∃ node, Unhandled graph handlers subflow depth start session traversal.steps node
  /-- That is the only fault on record, and it names the node and its type. -/
  fault_iff (fault : Fault) :
    traversal.fault? = some fault ↔
      ∃ node, Unhandled graph handlers subflow depth start session traversal.steps node ∧
        fault = .handlerNotFound node.typeTag node.id
  /-- The payload of the last outcome is remembered under the last node and the outcome's key. -/
  recorded (last : Step) :
    traversal.steps.getLast? = some last → last.outcome.payload ≠ .null →
      final.memory.output? last.node last.outcome.key = some last.outcome.payload
  /-- A walk from an id that is no node does nothing at all. -/
  untouched :
    graph.find? start = none → traversal.steps = [] ∧ final = session

/-- The record of a walk that comes to its end is true to the graph, to the registry of handlers,
and to the session that the walk leaves behind, whatever the handlers do. -/
theorem account_of_run
    {limit : Int}
    {traversal : Traversal}
    (ran : run graph handlers limit depth start session = (.ok traversal, final)) :
    Account graph handlers (subflowAt graph handlers limit depth) depth start session
      traversal final := by
  have ended := ends_of_run ran
  obtain ⟨trail, outlook⟩ := ended.outlook
  have exactly : ∀ stop, traversal.stop = stop ↔
      Outlook graph handlers (subflowAt graph handlers limit depth) depth start session
        traversal.steps stop :=
    fun stop => ⟨fun equal => equal ▸ outlook, outlook.unique trail⟩
  exact
    { trail
      deadEnd_iff := exactly .deadEnd
      cycle_iff := exactly .cycle
      missingNode_iff := exactly .missingNode
      unresolvedHandler_iff := by
        constructor
        · rintro ⟨typeTag, id, stop⟩
          obtain ⟨node, unhandled, _⟩ := (exactly _).1 stop
          exact ⟨node, unhandled⟩
        · rintro ⟨node, unhandled⟩
          exact ⟨node.typeTag, node.id, (exactly _).2 ⟨node, unhandled, rfl, rfl⟩⟩
      fault_iff := by
        intro fault
        constructor
        · intro recorded
          cases stop : traversal.stop with
          | deadEnd | cycle | missingNode => simp [Traversal.fault?, stop] at recorded
          | unresolvedHandler typeTag id =>
              obtain ⟨node, unhandled, rfl, rfl⟩ := (exactly _).1 stop
              exact ⟨node, unhandled, by simpa [Traversal.fault?, stop] using recorded.symm⟩
        · rintro ⟨node, unhandled, rfl⟩
          have stop := (exactly (.unresolvedHandler node.typeTag node.id)).2
            ⟨node, unhandled, rfl, rfl⟩
          simp [Traversal.fault?, stop]
      recorded := fun _ => ended.recorded
      untouched := ended.untouched }

/-- Two nodes that lead to each other, and handlers that answer with a greeting. -/
def Sample.ring : Graph where
  nodes :=
    [⟨"a", none, [], [("out", some ⟨some "b", []⟩)]⟩,
      ⟨"b", none, [], [("out", some ⟨some "a", []⟩)]⟩]

/-- Handlers that know every type and leave by `out` with a greeting. -/
def Sample.greeters : Handlers Unit Unit where
  resolve _ := pure (some ())
  perform _ _ _ := pure (.leaveWith "out" (.text "hello"))

/-- A walk around two nodes that lead to each other closes the cycle after both. -/
theorem account_of_ring :
    ∃ traversal final,
      run Sample.ring Sample.greeters 0 0 "a" { world := () } = (.ok traversal, final) ∧
      traversal.path = ["a", "b"] ∧ traversal.stop = .cycle ∧
      Account Sample.ring Sample.greeters (subflowAt Sample.ring Sample.greeters 0 0) 0 "a"
        { world := () } traversal final := by
  let greeting : Outcome := { output := some "out", payload := .text "hello" }
  have ran : run Sample.ring Sample.greeters 0 0 "a" { world := () } =
      (.ok ⟨"a", [⟨"a", greeting⟩, ⟨"b", greeting⟩], .cycle⟩,
        { memory := ⟨[], [("a", [(.text "out", .text "hello")]),
            ("b", [(.text "out", .text "hello")])]⟩
          trace := [("node_id", .text "b")], world := () }) := by
    cbv
  exact ⟨_, _, ran, rfl, rfl, account_of_run ran⟩

end Walk
end RequestFlow
