import RequestFlow.Walk.Basic

/-!
# Carrying out one node

A node is carried out in three moves: its handler is looked up, the references in its configuration
are resolved, and the handler runs on that copy. The lemmas below say how each of the three endings,
an outcome, no handler, and a fault, comes about, so that nothing else has to look into `visit`.
-/

namespace RequestFlow

namespace Outcome

/-- The key of an outcome is null or a text, and so it equals itself. -/
@[simp] theorem key_beq_self
    (outcome : Outcome) :
    (outcome.key == outcome.key) = true := by
  unfold key
  cases outcome.output with
  | none => rfl
  | some name => simp

end Outcome

namespace Memory

/-- A payload that has been recorded is found under its node and key. -/
theorem output?_record
    {key : Key}
    (itself : (key == key) = true)
    (node : String)
    (payload : Value)
    (memory : Memory) :
    (memory.record node key payload).output? node key = some payload := by
  simp [output?, record, Assoc.get?_put_self, Assoc.get?_put_of_beq itself]

end Memory

namespace Walk

variable {ω η : Type}

/-- The session in which the handler of a node is called: the trace names the node, and looking up
the handler may have changed the world outside. -/
def dispatched
    (handlers : Handlers ω η)
    (node : Node)
    (session : Session ω) : Session ω :=
  { session with
    trace := session.trace.put "node_id" (.text node.id)
    world := (handlers.resolve node.typeTag session.world).2 }

@[simp] theorem dispatched_memory
    (handlers : Handlers ω η)
    (node : Node)
    (session : Session ω) :
    (dispatched handlers node session).memory = session.memory := rfl

/-- Resolving the references of a node only reads what is remembered. -/
@[simp] theorem resolveData_apply
    (node : Node)
    (session : Session ω) :
    resolveData node session = (Template.resolveFields session.memory node.data, session) := rfl

/-- The session after the payload of an outcome has been kept. -/
def kept
    (node : String)
    (outcome : Outcome)
    (session : Session ω) : Session ω :=
  match outcome.payload with
  | .null => session
  | payload => { session with memory := session.memory.record node outcome.key payload }

@[simp] theorem keep_apply
    (node : String)
    (outcome : Outcome)
    (session : Session ω) :
    keep node outcome session = (.ok (), kept node outcome session) := by
  unfold keep kept
  cases outcome.payload <;> rfl

@[simp] theorem kept_world
    (node : String)
    (outcome : Outcome)
    (session : Session ω) :
    (kept node outcome session).world = session.world := by
  unfold kept
  cases outcome.payload <;> rfl

/-- A payload that is not null is remembered. -/
theorem output?_kept
    {outcome : Outcome}
    (given : outcome.payload ≠ .null)
    (node : String)
    (session : Session ω) :
    (kept node outcome session).memory.output? node outcome.key = some outcome.payload := by
  unfold kept
  cases payload_eq : outcome.payload with
  | null => exact absurd payload_eq given
  | _ => exact Memory.output?_record outcome.key_beq_self node _ session.memory

variable {handlers : Handlers ω η} {subflow : Subflow ω} {depth : Int}
  {node : Node} {session final : Session ω}

/-- Carrying out a node, one move after another. -/
theorem visit_apply :
    visit handlers subflow depth node session =
      match (handlers.resolve node.typeTag session.world).1 with
      | .error fault => (.error fault, dispatched handlers node session)
      | .ok none => (.ok none, dispatched handlers node session)
      | .ok (some handler) =>
        match Template.resolveFields session.memory node.data with
        | .error fault => (.error fault, dispatched handlers node session)
        | .ok data =>
          match dispatch handlers subflow depth handler node.typeTag (node.withData data)
              (dispatched handlers node session) with
          | (.error fault, after) => (.error fault, after)
          | (.ok outcome, after) => (.ok (some outcome), kept node.id outcome after) := by
  have moved :
      ({ session with
          trace := session.trace.put "node_id" (.text node.id)
          world := (handlers.resolve node.typeTag session.world).2 } : Session ω) =
        dispatched handlers node session := rfl
  unfold visit
  simp only [Transition.bind_apply, Session.enterNode_apply, Session.outside_apply, moved]
  cases (handlers.resolve node.typeTag session.world).1 with
  | error fault => rfl
  | ok found =>
      cases found with
      | none => rfl
      | some handler =>
          simp only [Transition.bind_apply, resolveData_apply, dispatched_memory]
          cases Template.resolveFields session.memory node.data with
          | error fault => rfl
          | ok data =>
              simp only [keep_apply]
              rcases dispatch handlers subflow depth handler node.typeTag (node.withData data)
                (dispatched handlers node session) with ⟨fault | outcome, after⟩ <;> rfl

/-- A node is passed over without an outcome exactly when nothing handles its type. -/
theorem visit_eq_none_iff :
    visit handlers subflow depth node session = (.ok none, final) ↔
      (handlers.resolve node.typeTag session.world).1 = .ok none ∧
        final = dispatched handlers node session := by
  rw [visit_apply]
  rcases (handlers.resolve node.typeTag session.world).1 with fault | _ | handler
  · simp
  · simp [eq_comm]
  · rcases Template.resolveFields session.memory node.data with fault | data
    · simp
    · rcases dispatch_eq : dispatch handlers subflow depth handler node.typeTag
        (node.withData data) (dispatched handlers node session) with ⟨fault | outcome, after⟩ <;>
        simp [dispatch_eq]

/-- A node has an outcome exactly when a handler is found, its references resolve, and the handler
ends with that outcome. -/
theorem visit_eq_some_iff
    {outcome : Outcome} :
    visit handlers subflow depth node session = (.ok (some outcome), final) ↔
      ∃ handler data after,
        (handlers.resolve node.typeTag session.world).1 = .ok (some handler) ∧
        Template.resolveFields session.memory node.data = .ok data ∧
        dispatch handlers subflow depth handler node.typeTag (node.withData data)
          (dispatched handlers node session) = (.ok outcome, after) ∧
        final = kept node.id outcome after := by
  rw [visit_apply]
  rcases (handlers.resolve node.typeTag session.world).1 with fault | _ | handler
  · simp
  · simp
  · rcases Template.resolveFields session.memory node.data with fault | data
    · simp
    · rcases dispatch_eq : dispatch handlers subflow depth handler node.typeTag
        (node.withData data) (dispatched handlers node session) with ⟨fault | ended, after⟩
      · simp [dispatch_eq]
      · simp only [dispatch_eq, Prod.mk.injEq, Except.ok.injEq, Option.some.injEq]
        constructor
        · rintro ⟨rfl, rfl⟩
          exact ⟨handler, data, after, rfl, rfl, dispatch_eq, rfl⟩
        · rintro ⟨_, _, _, rfl, rfl, same, rfl⟩
          rw [dispatch_eq] at same
          simp_all

/-- A node fails exactly when looking up its handler, resolving its references, or the handler
does. -/
theorem visit_eq_error_iff
    {fault : Fault} :
    visit handlers subflow depth node session = (.error fault, final) ↔
      ((handlers.resolve node.typeTag session.world).1 = .error fault ∧
        final = dispatched handlers node session) ∨
      ∃ handler, (handlers.resolve node.typeTag session.world).1 = .ok (some handler) ∧
        ((Template.resolveFields session.memory node.data = .error fault ∧
          final = dispatched handlers node session) ∨
        ∃ data, Template.resolveFields session.memory node.data = .ok data ∧
          dispatch handlers subflow depth handler node.typeTag (node.withData data)
            (dispatched handlers node session) = (.error fault, final)) := by
  rw [visit_apply]
  rcases (handlers.resolve node.typeTag session.world).1 with _ | _ | handler
  · simp [eq_comm]
  · simp
  · rcases Template.resolveFields session.memory node.data with _ | data
    · simp [eq_comm]
    · rcases dispatch_eq : dispatch handlers subflow depth handler node.typeTag
        (node.withData data) (dispatched handlers node session) with ⟨_ | _, _⟩ <;>
        simp [dispatch_eq]

end Walk
end RequestFlow
