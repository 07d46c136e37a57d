import RequestFlow.Nodes.Builtin
import RequestFlow.Proofs.Nodes.Loop

/-!
# How built-in nodes end

Every built-in node first reads what it is given, which may fail, and then writes, which does not
fail. So one that fails has changed nothing, whatever the walks do that it starts; and one that does
not fail ends with an outcome.
-/

namespace RequestFlow
namespace Nodes

variable {ω : Type} {call : Call} {subflow : Subflow ω} {session : Session ω}

/-! ## Equations -/

theorem assign_apply :
    assign call subflow session =
      if (call.node.data.get "variableName").isTruthy then
        (.ok (.leave "out"),
          { session with
            memory := session.memory.setVariable (call.node.data.get "variableName").display
              (call.node.data.get "value") })
      else (.error (.noVariableName call.node.id), session) := by
  cases named : (call.node.data.get "variableName").isTruthy with
  | true => simp [assign, named, Transition.bind_apply]
  | false => simp [assign, named]

theorem enter_apply :
    enter call subflow session = (.ok (.leaveWith "out" session.request.payload), session) := rfl

theorem respond_apply :
    respond call subflow session =
      match responseOf call.node with
      | .error fault => (.error fault, session)
      | .ok response => (.ok (.outcome {}), { session with response := some response }) := by
  unfold respond
  rw [Transition.bind_apply, Transition.ofExcept_apply]
  cases responseOf call.node with
  | error fault => rfl
  | ok response => rfl

/-- The messages that a validation node finds before it writes anything. -/
def judge
    (support : Rules.Support)
    (config : Fields)
    (memory : Memory)
    (request : Request) : Except Fault (List Value) :=
  (configuredRules config).bind (failures support request (subject config memory request))

theorem validate_apply
    {support : Rules.Support} :
    validate support call subflow session =
      match judge support call.node.data session.memory session.request with
      | .error fault => (.error fault, session)
      | .ok [] =>
        (.ok (.leaveWith "success" (subject call.node.data session.memory session.request)),
          { session with
            memory := conclude call.node.data "successVariable" "onSuccess"
              (subject call.node.data session.memory session.request) session.memory })
      | .ok messages =>
        (.ok (.leaveWith "failure" (.list messages)),
          { session with
            memory := conclude call.node.data "errorVariable" "onFailure" (.list messages)
              session.memory }) := by
  unfold validate judge
  simp only [Transition.bind_apply, Transition.read_apply, Transition.ofExcept_apply]
  cases configuredRules call.node.data with
  | error fault => rfl
  | ok rules =>
      simp only [Except.bind]
      rcases failures support session.request
        (subject call.node.data session.memory session.request) rules with
        fault | _ | ⟨message, messages⟩
      · rfl
      · rfl
      · rfl

/-- However the walks for its items end, a loop that has read them ends with an outcome. -/
theorem eachItem_outcome
    (subflow : Subflow ω)
    (node : Node)
    (rest : List Item)
    (processed : Nat)
    (session : Session ω) :
    ∃ outcome after,
      eachItem subflow node processed rest session = (.ok (.outcome outcome), after) := by
  induction rest generalizing processed session with
  | nil => exact ⟨_, _, rfl⟩
  | cons item rest inductionHypothesis =>
      rw [eachItem_cons]
      rcases walkIfDeclared subflow node "inLoop" (bound node item session) with
        ⟨fault | done, after⟩
      · exact ⟨_, _, rfl⟩
      · exact inductionHypothesis (processed + 1) after

end Nodes

namespace Builtin

open Nodes

variable {ω : Type} {support : Rules.Support} {builtin : Builtin} {call : Call}
  {session : Session ω}

/-- The fault of a result. -/
def faultOf {α : Type} : Except Fault α → Option Fault
  | .error fault => some fault
  | .ok _ => none

theorem faultOf_eq_some_iff
    {α : Type}
    {result : Except Fault α}
    {fault : Fault} :
    faultOf result = some fault ↔ result = .error fault := by
  cases result with
  | error cause => simp [faultOf]
  | ok given => simp [faultOf]

theorem faultOf_eq_none_iff
    {α : Type}
    {result : Except Fault α} :
    faultOf result = none ↔ ∃ given, result = .ok given := by
  cases result with
  | error cause => simp [faultOf]
  | ok given => simp [faultOf]

/-- The fault with which a built-in node fails, if it does. It is found by reading alone. -/
def fault?
    (support : Rules.Support)
    (builtin : Builtin)
    (node : Node)
    (session : Session ω) : Option Fault :=
  match builtin with
  | .assignment =>
      if (node.data.get "variableName").isTruthy then none else some (.noVariableName node.id)
  | .entry => none
  | .response => faultOf (responseOf node)
  | .loop => faultOf (loopItems (node.data.get "items"))
  | .validation => faultOf (judge support node.data session.memory session.request)

/-- A built-in node that fails leaves everything as it was. -/
theorem perform_of_fault
    {fault : Fault}
    (fails : builtin.fault? support call.node session = some fault)
    (subflow : Subflow ω) :
    builtin.perform support call subflow session = (.error fault, session) := by
  cases builtin with
  | assignment =>
      rw [fault?] at fails
      rw [perform, assign_apply]
      split at fails
      · cases fails
      · next unnamed =>
          cases fails
          rw [if_neg unnamed]
  | entry => cases fails
  | response =>
      rw [fault?, faultOf_eq_some_iff] at fails
      rw [perform, respond_apply, fails]
  | loop =>
      rw [fault?, faultOf_eq_some_iff] at fails
      rw [perform, loop_apply, fails]
  | validation =>
      rw [fault?, faultOf_eq_some_iff] at fails
      rw [perform, validate_apply, fails]

/-- A built-in node that does not fail ends with an outcome. -/
theorem perform_of_none
    (succeeds : builtin.fault? support call.node session = none)
    (subflow : Subflow ω) :
    ∃ outcome after,
      builtin.perform support call subflow session = (.ok (.outcome outcome), after) := by
  cases builtin with
  | assignment =>
      rw [fault?] at succeeds
      rw [perform, assign_apply]
      split at succeeds
      · next named =>
          rw [if_pos named]
          exact ⟨_, _, rfl⟩
      · cases succeeds
  | entry =>
      rw [perform, enter_apply]
      exact ⟨_, _, rfl⟩
  | response =>
      rw [fault?, faultOf_eq_none_iff] at succeeds
      obtain ⟨response, read⟩ := succeeds
      rw [perform, respond_apply, read]
      exact ⟨_, _, rfl⟩
  | loop =>
      rw [fault?, faultOf_eq_none_iff] at succeeds
      obtain ⟨items, read⟩ := succeeds
      rw [perform, loop_apply, read]
      rcases walked : walkIfDeclared subflow call.node "beforeLoop" session with
        ⟨fault | done, after⟩
      · exact ⟨_, _, rfl⟩
      · exact eachItem_outcome subflow call.node items 0 after
  | validation =>
      rw [fault?, faultOf_eq_none_iff] at succeeds
      obtain ⟨messages, read⟩ := succeeds
      rw [perform, validate_apply, read]
      cases messages with
      | nil => exact ⟨_, _, rfl⟩
      | cons message messages => exact ⟨_, _, rfl⟩

/-- A built-in node that starts no walks changes what is remembered and the response at most. -/
theorem exists_perform_eq
    {subflow : Subflow ω}
    {answer : Except Fault Reply}
    {after : Session ω}
    (alone : builtin ≠ .loop)
    (performed : builtin.perform support call subflow session = (answer, after)) :
    ∃ memory response, after = { session with memory, response } := by
  cases builtin with
  | loop => exact absurd rfl alone
  | assignment =>
      rw [perform, assign_apply] at performed
      split at performed <;> cases performed <;> exact ⟨_, _, rfl⟩
  | entry =>
      rw [perform, enter_apply] at performed
      cases performed
      exact ⟨_, _, rfl⟩
  | response =>
      rw [perform, respond_apply] at performed
      split at performed <;> cases performed <;> exact ⟨_, _, rfl⟩
  | validation =>
      rw [perform, validate_apply] at performed
      split at performed <;> cases performed <;> exact ⟨_, _, rfl⟩

theorem perform_world
    {subflow : Subflow ω}
    {answer : Except Fault Reply}
    {after : Session ω}
    (alone : builtin ≠ .loop)
    (performed : builtin.perform support call subflow session = (answer, after)) :
    after.world = session.world := by
  obtain ⟨memory, response, rfl⟩ := exists_perform_eq alone performed
  rfl

theorem perform_trace
    {subflow : Subflow ω}
    {answer : Except Fault Reply}
    {after : Session ω}
    (alone : builtin ≠ .loop)
    (performed : builtin.perform support call subflow session = (answer, after)) :
    after.trace = session.trace := by
  obtain ⟨memory, response, rfl⟩ := exists_perform_eq alone performed
  rfl

end Builtin
end RequestFlow
