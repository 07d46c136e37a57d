import RequestFlow.Fault

/-!
# Transitions

A transition takes a state to a result and a next state. A transition that fails has a fault for its
result and still leaves a state behind: what it did before it failed is not undone. Transitions form
a monad in which the first fault ends a sequence.
-/

namespace RequestFlow

/-- A step from a state to a result, or a fault, and a next state. -/
def Transition (σ α : Type) := σ → Except Fault α × σ

namespace Transition

variable {σ τ α β : Type}

/-- The transition that changes nothing. -/
def done (result : α) : Transition σ α :=
  fun state => (.ok result, state)

/-- One transition and then, unless it failed, the one that its result calls for. -/
def andThen (first : Transition σ α) (next : α → Transition σ β) : Transition σ β :=
  fun state =>
    match first state with
    | (.ok result, reached) => next result reached
    | (.error fault, reached) => (.error fault, reached)

instance : Monad (Transition σ) where
  pure := done
  bind := andThen

/-- The transition that fails at once. -/
def fail (fault : Fault) : Transition σ α :=
  fun state => (.error fault, state)

/-- A result that does not depend on the state. -/
def ofExcept (result : Except Fault α) : Transition σ α :=
  fun state => (result, state)

/-- The state, or a part of it. -/
def read (part : σ → α) : Transition σ α :=
  fun state => (.ok (part state), state)

/-- Change the state. -/
def modify (change : σ → σ) : Transition σ Unit :=
  fun state => (.ok (), change state)

/-- Run a transition and hand on its fault, if it fails, as a result. -/
def attempt (transition : Transition σ α) : Transition σ (Except Fault α) :=
  fun state => (.ok (transition state).1, (transition state).2)

/-- Run a transition and reword its fault, if it fails. -/
def mapFault (change : Fault → Fault) (transition : Transition σ α) : Transition σ α :=
  fun state => ((transition state).1.mapError change, (transition state).2)

/-- Run a transition on a part of the state. -/
def onPart (part : σ → τ) (replace : τ → σ → σ) (transition : Transition τ α) : Transition σ α :=
  fun state => ((transition (part state)).1, replace (transition (part state)).2 state)

@[simp] theorem pure_apply
    (result : α)
    (state : σ) :
    (pure result : Transition σ α) state = (.ok result, state) := rfl

@[simp] theorem fail_apply
    (fault : Fault)
    (state : σ) :
    (fail fault : Transition σ α) state = (.error fault, state) := rfl

@[simp] theorem ofExcept_apply
    (result : Except Fault α)
    (state : σ) :
    ofExcept result state = (result, state) := rfl

@[simp] theorem read_apply
    (part : σ → α)
    (state : σ) :
    read part state = (.ok (part state), state) := rfl

@[simp] theorem modify_apply
    (change : σ → σ)
    (state : σ) :
    modify change state = (.ok (), change state) := rfl

@[simp] theorem attempt_apply
    (transition : Transition σ α)
    (state : σ) :
    attempt transition state = (.ok (transition state).1, (transition state).2) := rfl

@[simp] theorem mapFault_apply
    (change : Fault → Fault)
    (transition : Transition σ α)
    (state : σ) :
    mapFault change transition state =
      ((transition state).1.mapError change, (transition state).2) := rfl

@[simp] theorem onPart_apply
    (part : σ → τ)
    (replace : τ → σ → σ)
    (transition : Transition τ α)
    (state : σ) :
    onPart part replace transition state =
      ((transition (part state)).1, replace (transition (part state)).2 state) := rfl

/-- What a sequence does is decided by how its first part ends. -/
theorem bind_apply
    (first : Transition σ α)
    (next : α → Transition σ β)
    (state : σ) :
    (first >>= next) state =
      match first state with
      | (.ok result, reached) => next result reached
      | (.error fault, reached) => (.error fault, reached) := rfl

/-- After a success the sequence goes on from the state that was reached. -/
theorem bind_of_ok
    {first : Transition σ α}
    {state reached : σ}
    {result : α}
    (ends : first state = (.ok result, reached))
    (next : α → Transition σ β) :
    (first >>= next) state = next result reached := by
  rw [bind_apply, ends]

/-- After a fault the sequence is over. -/
theorem bind_of_error
    {first : Transition σ α}
    {state reached : σ}
    {fault : Fault}
    (ends : first state = (.error fault, reached))
    (next : α → Transition σ β) :
    (first >>= next) state = (.error fault, reached) := by
  rw [bind_apply, ends]

end Transition
end RequestFlow
