import Mathlib.Logic.Relation
import RequestFlow.Proofs.Walk.Finishing
import RequestFlow.Proofs.Walk.Locality

/-!
# What the limit on nested walks decides

The limit is looked at in one place, when a walk is to be started at an output; there it is compared
with the depth of the node that starts it. A run in which that comparison never goes against a walk
is the same under every higher limit. A refusal need not show in the result, since a loop turns it
into an outcome, so it is looked for in all parts of a run.
-/

namespace RequestFlow
namespace Walk

variable {ω : Type}

/-! ## The parts of a run -/

/-- A part of a walk, with the depth and the session in which it is started. -/
structure Moment (ω : Type) where
  /-- What is done. -/
  task : Task
  /-- The level at which it is done. -/
  depth : Int
  /-- The session in which it is done. -/
  session : Session ω

/-- The first part of a walk starts the second one itself, under a limit. -/
inductive Enters
    (graph : Graph)
    (resolve : String → Transition ω (Option Builtin))
    (support : Rules.Support)
    (limit : Int) : Moment ω → Moment ω → Prop
  | handler {visited current depth session node builtin data ready} :
      current ∉ visited →
      graph.find? current = some node →
      prepare (builtins resolve support) node session = (.ok (some (builtin, data)), ready) →
      Enters graph resolve support limit ⟨.walk visited current, depth, session⟩
        ⟨.handler builtin (node.withData data), depth, ready⟩
  | onward {visited current depth session node builtin data ready calls answer after outcome
      target} :
      current ∉ visited →
      graph.find? current = some node →
      prepare (builtins resolve support) node session = (.ok (some (builtin, data)), ready) →
      Executes graph resolve support limit (.handler builtin (node.withData data)) depth ready
        calls answer after →
      settle node answer = .ok outcome →
      node.next? outcome.output = some target →
      Enters graph resolve support limit ⟨.walk visited current, depth, session⟩
        ⟨.walk (current :: visited) target, depth, kept node.id outcome after⟩
  | flow {node output depth session start} :
      node.next? output = some start →
      depth < limit →
      Enters graph resolve support limit ⟨.flow node output, depth, session⟩
        ⟨.walk [] start, depth + 1, session⟩
  | declared {node output depth session} :
      node.hasOutput output = true →
      Enters graph resolve support limit ⟨.flowIfDeclared node output, depth, session⟩
        ⟨.flow node (some output), depth, session⟩
  | before {node depth session items} :
      Nodes.loopItems (node.data.get "items") = .ok items →
      Enters graph resolve support limit ⟨.handler .loop node, depth, session⟩
        ⟨.flowIfDeclared node "beforeLoop", depth, session⟩
  | items {node depth session items calls after} :
      Nodes.loopItems (node.data.get "items") = .ok items →
      Executes graph resolve support limit (.flowIfDeclared node "beforeLoop") depth session
        calls (.ok ()) after →
      Enters graph resolve support limit ⟨.handler .loop node, depth, session⟩
        ⟨.items node 0 items, depth, after⟩
  | item {node depth session processed item rest} :
      Enters graph resolve support limit ⟨.items node processed (item :: rest), depth, session⟩
        ⟨.flowIfDeclared node "inLoop", depth, Nodes.bound node item session⟩
  | nextItem {node depth session processed item rest calls after} :
      Executes graph resolve support limit (.flowIfDeclared node "inLoop") depth
        (Nodes.bound node item session) calls (.ok ()) after →
      Enters graph resolve support limit ⟨.items node processed (item :: rest), depth, session⟩
        ⟨.items node (processed + 1) rest, depth, after⟩

/-- A part of a walk is the walk at an output that leads to a node, started at the limit. -/
def Moment.Refused (limit : Int) (moment : Moment ω) : Prop :=
  ∃ node output start, moment.task = .flow node output ∧ node.next? output = some start ∧
    limit ≤ moment.depth

/-- In the course of a part of a walk, at whatever depth, a walk at an output is refused. -/
def Refuses
    (graph : Graph)
    (resolve : String → Transition ω (Option Builtin))
    (support : Rules.Support)
    (limit : Int)
    (moment : Moment ω) : Prop :=
  ∃ refused, Relation.ReflTransGen (Enters graph resolve support limit) moment refused ∧
    refused.Refused limit

variable {graph : Graph} {resolve : String → Transition ω (Option Builtin)}
  {support : Rules.Support} {limit higher : Int} {moment part : Moment ω}

theorem Refuses.of_enters
    (refuses : Refuses graph resolve support limit part)
    (enters : Enters graph resolve support limit moment part) :
    Refuses graph resolve support limit moment := by
  obtain ⟨refused, entered, atLimit⟩ := refuses
  exact ⟨refused, entered.head enters, atLimit⟩

/-- What every part passes on to those that it starts, and what no refused part has, excludes
refusals. -/
theorem not_refuses_of_invariant
    {invariant : Moment ω → Prop}
    (holds : invariant moment)
    (passed : ∀ moment part, Enters graph resolve support limit moment part →
      invariant moment → invariant part)
    (unrefused : ∀ moment, invariant moment → ¬ moment.Refused limit) :
    ¬ Refuses graph resolve support limit moment := by
  rintro ⟨refused, entered, atLimit⟩
  apply unrefused refused ?_ atLimit
  clear atLimit
  induction entered with
  | refl => exact holds
  | tail _ enters inductionHypothesis => exact passed _ _ enters inductionHypothesis

/-! ## Raising the limit -/

/-- An execution in which nothing is refused is one under every higher limit. -/
theorem Executes.raise
    (raised : limit ≤ higher)
    {task : Task}
    {depth : Int}
    {session final : Session ω}
    {calls : List Call}
    {result : Except Fault task.Result}
    (execution :
      Executes graph resolve support limit task depth session calls result final)
    (unrefused : ¬ Refuses graph resolve support limit ⟨task, depth, session⟩) :
    Executes graph resolve support higher task depth session calls result final := by
  -- Each part that is started refuses nothing either, since its refusals are among those of the
  -- whole.
  have part_unrefused : ∀ {moment part : Moment ω},
      ¬ Refuses graph resolve support limit moment →
      Enters graph resolve support limit moment part →
      ¬ Refuses graph resolve support limit part := by
    intro moment part unrefused enters refuses
    exact unrefused (refuses.of_enters enters)
  induction execution with
  | cycle seen => exact .cycle seen
  | missingNode fresh missing => exact .missingNode fresh missing
  | unprepared fresh found prepared => exact .unprepared fresh found prepared
  | unresolvedHandler fresh found prepared => exact .unresolvedHandler fresh found prepared
  | failed fresh found prepared _ settled inductionHypothesis =>
      have performed := inductionHypothesis
        (part_unrefused unrefused (.handler fresh found prepared))
      exact .failed fresh found prepared performed settled
  | deadEnd fresh found prepared _ settled next inductionHypothesis =>
      have performed := inductionHypothesis
        (part_unrefused unrefused (.handler fresh found prepared))
      exact .deadEnd fresh found prepared performed settled next
  | onward fresh found prepared execution settled next _ inductionHypothesis further =>
      have performed := inductionHypothesis
        (part_unrefused unrefused (.handler fresh found prepared))
      have continued := further
        (part_unrefused unrefused (.onward fresh found prepared execution settled next))
      exact .onward fresh found prepared performed settled next continued
  | unwired unwired => exact .unwired unwired
  | refused wired deep =>
      exact absurd ⟨_, .refl, _, _, _, rfl, wired, deep⟩ unrefused
  | flowFailed wired shallow _ inductionHypothesis =>
      have walked := inductionHypothesis (part_unrefused unrefused (.flow wired shallow))
      exact .flowFailed wired (by omega) walked
  | flowWalked wired shallow _ inductionHypothesis =>
      have walked := inductionHypothesis (part_unrefused unrefused (.flow wired shallow))
      exact .flowWalked wired (by omega) walked
  | undeclared undeclared => exact .undeclared undeclared
  | declared declared _ inductionHypothesis =>
      exact .declared declared (inductionHypothesis (part_unrefused unrefused (.declared declared)))
  | alone notLoop same => exact .alone notLoop same
  | loopUnread unread => exact .loopUnread unread
  | loopFailedBefore read _ inductionHypothesis =>
      exact .loopFailedBefore read (inductionHypothesis (part_unrefused unrefused (.before read)))
  | loopStarted read execution _ inductionHypothesis further =>
      have walked := inductionHypothesis (part_unrefused unrefused (.before read))
      have continued := further (part_unrefused unrefused (.items read execution))
      exact .loopStarted read walked continued
  | finished => exact .finished
  | itemFailed _ inductionHypothesis =>
      exact .itemFailed (inductionHypothesis (part_unrefused unrefused .item))
  | itemDone execution _ inductionHypothesis further =>
      have walked := inductionHypothesis (part_unrefused unrefused .item)
      have continued := further (part_unrefused unrefused (.nextItem execution))
      exact .itemDone walked continued

/-- The limit on nested walks cuts and changes nothing else. A run in which no walk at an output is
refused, not even inside a loop that turns the refusal into an outcome, has the same result or
fault under every higher limit, and leaves the same session behind: the variables, the recorded
payloads and the response among the rest. -/
theorem run_eq_of_not_refuses
    (graph : Graph)
    (resolve : String → Transition ω (Option Builtin))
    (support : Rules.Support)
    {limit higher : Int}
    (raised : limit ≤ higher)
    (depth : Int)
    (start : String)
    (session : Session ω)
    (unrefused : ¬ Refuses graph resolve support limit ⟨.walk [] start, depth, session⟩) :
    run graph (builtins resolve support) limit depth start session =
      run graph (builtins resolve support) higher depth start session := by
  obtain ⟨calls, execution⟩ :=
    exists_executes_run graph resolve support limit depth start session
  exact ((execution.raise raised unrefused).compute_eq).symm

namespace Sample

/-- A loop over two items, with the same node to walk to for each of them and at the end. -/
def twice : Node where
  id := "twice"
  data := [(.text "type", .text "loop"), (.text "items", .list [.int 1, .int 2])]
  outputs := [("inLoop", some ⟨some "mark", []⟩), ("afterLoop", some ⟨some "mark", []⟩)]

/-- A variable node that leads nowhere. -/
def mark : Node where
  id := "mark"
  data := [(.text "type", .text "variable"), (.text "variableName", .text "marked")]

def shallow : Graph where
  nodes := [twice, mark]

/-- The parts of a walk of this graph: the walks for the items are one level down, and the node
they carry out starts no walks. -/
def AtMostOneDown (moment : Moment Unit) : Prop :=
  match moment.task with
  | .walk _ current => moment.depth = 0 ∨ moment.depth = 1 ∧ current = "mark"
  | .flow node _ | .flowIfDeclared node _ | .items node _ _ =>
      moment.depth = 0 ∧ node.LeadsInto {"mark"}
  | .handler builtin node =>
      moment.depth = 0 ∧ node.LeadsInto {"mark"} ∨ builtin = .assignment

theorem leadsInto_mark
    {current : String}
    {node : Node}
    (found : shallow.find? current = some node) :
    node.LeadsInto {"mark"} := by
  have member : node ∈ [twice, mark] := Graph.mem_of_find? found
  apply Node.leadsInto_of_targets
  intro key edge target declared ends
  simp only [List.mem_cons, List.not_mem_nil, or_false] at member
  rcases member with rfl | rfl
  · simp only [twice, List.mem_cons, Prod.mk.injEq, Option.some.injEq, List.not_mem_nil,
      or_false] at declared
    rcases declared with ⟨_, rfl⟩ | ⟨_, rfl⟩
    · exact (Option.some.inj ends).symm
    · exact (Option.some.inj ends).symm
  · simp [mark] at declared

theorem next?_mark (output : Option String) : mark.next? output = none := by
  cases output with
  | none => rfl
  | some name => simp [Node.next?, mark]

theorem assignment_of_prepare_mark
    {session ready : Session Unit}
    {builtin : Builtin}
    {data : Fields}
    (prepared : prepare direct mark session = (.ok (some (builtin, data)), ready)) :
    builtin = .assignment := by
  have resolved : (direct.resolve mark.typeTag session.world).1 =
      .ok (some Builtin.assignment) := by rfl
  rw [prepare_apply, resolved] at prepared
  have given := congrArg Prod.fst prepared
  cases read : Template.resolveFields session.memory mark.data with
  | error fault => simp [read, Except.map] at given
  | ok resolvedData =>
      simp only [read, Except.map, Except.ok.injEq, Option.some.injEq, Prod.mk.injEq] at given
      exact given.1.symm

theorem atMostOneDown_of_enters
    {moment part : Moment Unit}
    (enters : Enters shallow known {} 1 moment part)
    (holds : AtMostOneDown moment) :
    AtMostOneDown part := by
  cases enters with
  | handler fresh found prepared =>
      rcases holds with top | ⟨down, rfl⟩
      · left
        refine ⟨top, fun output target next => ?_⟩
        rw [Node.next?_withData] at next
        exact leadsInto_mark found output target next
      · obtain rfl := Option.some.inj found
        exact .inr (assignment_of_prepare_mark prepared)
  | onward fresh found prepared execution settled next =>
      rcases holds with top | ⟨down, rfl⟩
      · exact .inl top
      · obtain rfl := Option.some.inj found
        rw [next?_mark] at next
        cases next
  | flow wired shallow =>
      obtain ⟨top, leads⟩ := holds
      exact .inr ⟨by simp_all, leads _ _ wired⟩
  | declared declared => exact holds
  | before read | items read execution =>
      rcases holds with holds | other
      · exact holds
      · cases other
  | item | nextItem execution => exact holds

end Sample

/-- The walks for the items of the loop are one level down, and so a limit of one level serves as
well as one of many. -/
theorem run_eq_of_not_refuses_twice :
    ¬ Refuses Sample.shallow Sample.known {} 1
      ⟨.walk [] "twice", 0, { world := () }⟩ ∧
    run Sample.shallow Sample.direct 1 0 "twice" { world := () } =
      run Sample.shallow Sample.direct 32 0 "twice" { world := () } := by
  have unrefused : ¬ Refuses Sample.shallow Sample.known {} 1
      ⟨.walk [] "twice", 0, { world := () }⟩ := by
    have holds : Sample.AtMostOneDown ⟨.walk [] "twice", 0, { world := () }⟩ := Or.inl rfl
    apply not_refuses_of_invariant holds
    · intro moment part enters holds
      exact Sample.atMostOneDown_of_enters enters holds
    · rintro ⟨task, depth, session⟩ holds ⟨node, output, start, rfl, _, atLimit⟩
      have top : depth = 0 := holds.1
      simp only at atLimit
      omega
  exact ⟨unrefused, run_eq_of_not_refuses Sample.shallow Sample.known {} (by decide) 0
    "twice" { world := () } unrefused⟩

end Walk
end RequestFlow
