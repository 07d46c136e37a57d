import RequestFlow.Flow.Transition

/-!
# What a transition ensures

A transition ensures, for an invariant of states, what it gives and what it raises: from a state
with the invariant it ends in one with the invariant, and its result is one that it gives or a
fault that it raises. What a sequence ensures follows from what its steps ensure.
-/

namespace RequestFlow

variable {σ α β : Type} {gives further : α → Prop} {raises others : Fault → Prop}

/-- A result is one of those given, or a fault one of those raised. -/
inductive Yields
    (gives : α → Prop)
    (raises : Fault → Prop) : Except Fault α → Prop
  | ok {given : α} : gives given → Yields gives raises (.ok given)
  | error {fault : Fault} : raises fault → Yields gives raises (.error fault)

namespace Yields

theorem mono
    {result : Except Fault α}
    (yields : Yields gives raises result)
    (giving : ∀ given, gives given → further given)
    (raising : ∀ fault, raises fault → others fault) :
    Yields further others result := by
  cases yields with
  | ok holds => exact .ok (giving _ holds)
  | error holds => exact .error (raising _ holds)

theorem mono_raises
    {result : Except Fault α}
    (yields : Yields gives raises result)
    (raising : ∀ fault, raises fault → others fault) :
    Yields gives others result :=
  yields.mono (fun _ holds => holds) raising

theorem map
    {result : Except Fault α}
    {change : α → β}
    {changed : β → Prop}
    (yields : Yields gives raises result)
    (giving : ∀ given, gives given → changed (change given)) :
    Yields changed raises (result.map change) := by
  cases yields with
  | ok holds => exact .ok (giving _ holds)
  | error holds => exact .error holds

/-- A sequence of results yields what its second part does for all that its first part gives. -/
theorem bind
    {results : β → Prop}
    {result : Except Fault α}
    {next : α → Except Fault β}
    (yields : Yields gives raises result)
    (yieldsNext : ∀ given, gives given → Yields results raises (next given)) :
    Yields results raises (result >>= next) := by
  cases yields with
  | ok holds => exact yieldsNext _ holds
  | error holds => exact .error holds

/-- Where any fault may be raised, only what is given has to be looked at. -/
theorem of_ok
    {result : Except Fault α}
    (giving : ∀ given, result = .ok given → gives given) :
    Yields gives (fun _ => True) result := by
  cases result with
  | ok given => exact .ok (giving given rfl)
  | error fault => exact .error trivial

end Yields

/-- A sequence fails if its first part does, or else if what follows does. -/
theorem bind_eq_error_iff
    {first : Except Fault α}
    {next : α → Except Fault β}
    {fault : Fault} :
    first >>= next = .error fault ↔
      first = .error fault ∨ ∃ given, first = .ok given ∧ next given = .error fault := by
  cases first with
  | error raised => simp [bind, Except.bind]
  | ok given => simp [bind, Except.bind]

theorem map_eq_error_iff
    {change : α → β}
    {result : Except Fault α}
    {fault : Fault} :
    result.map change = .error fault ↔ result = .error fault := by
  cases result <;> simp [Except.map]

/-- What is made of a result does not fail. -/
theorem bind_pure_eq_error_iff
    {change : α → β}
    {result : Except Fault α}
    {fault : Fault} :
    (result >>= fun given => pure (change given)) = .error fault ↔ result = .error fault := by
  cases result <;> simp [bind, Except.bind, pure, Except.pure]

namespace Transition

variable {invariant : σ → Prop}

/-- From a state with the invariant the state that is reached has it too, and the result is one of
those given, or a fault one of those raised. -/
def Ensures
    (invariant : σ → Prop)
    (gives : α → Prop)
    (raises : Fault → Prop)
    (transition : Transition σ α) : Prop :=
  ∀ state, invariant state →
    Yields gives raises (transition state).1 ∧ invariant (transition state).2

theorem ensures_ofExcept
    {result : Except Fault α}
    (yields : Yields gives raises result) :
    Ensures invariant gives raises (ofExcept result) :=
  fun _ holds => ⟨yields, holds⟩

theorem ensures_pure
    {result : α}
    (given : gives result) :
    Ensures invariant gives raises (pure result) :=
  ensures_ofExcept (.ok given)

theorem ensures_fail
    {fault : Fault}
    (raised : raises fault) :
    Ensures invariant gives raises (fail fault : Transition σ α) :=
  ensures_ofExcept (.error raised)

theorem ensures_read
    {part : σ → α}
    (given : ∀ state, invariant state → gives (part state)) :
    Ensures invariant gives raises (read part) :=
  fun state holds => ⟨.ok (given state holds), holds⟩

/-- Reading what the invariant decides gives that. -/
theorem ensures_read_eq
    {part : σ → α}
    {decided : α}
    (same : ∀ state, invariant state → part state = decided) :
    Ensures invariant (· = decided) raises (read part) :=
  ensures_read same

theorem ensures_modify
    {change : σ → σ}
    (keeps : ∀ state, invariant state → invariant (change state)) :
    Ensures invariant (fun _ => True) raises (modify change) :=
  fun state holds => ⟨.ok trivial, keeps state holds⟩

namespace Ensures

theorem mono
    {transition : Transition σ α}
    (ensures : Ensures invariant gives raises transition)
    (giving : ∀ given, gives given → further given)
    (raising : ∀ fault, raises fault → others fault) :
    Ensures invariant further others transition := fun state holds =>
  ⟨(ensures state holds).1.mono giving raising, (ensures state holds).2⟩

theorem mono_raises
    {transition : Transition σ α}
    (ensures : Ensures invariant gives raises transition)
    (raising : ∀ fault, raises fault → others fault) :
    Ensures invariant gives others transition :=
  ensures.mono (fun _ holds => holds) raising

/-- A sequence ensures what its second part does for all that its first part gives. -/
theorem bind
    {results : β → Prop}
    {first : Transition σ α}
    {next : α → Transition σ β}
    (ensures : Ensures invariant gives raises first)
    (ensuresNext : ∀ given, gives given → Ensures invariant results raises (next given)) :
    Ensures invariant results raises (first >>= next) := by
  intro state holds
  obtain ⟨yields, kept⟩ := ensures state holds
  rw [bind_apply]
  rcases ended : first state with ⟨result, reached⟩
  rw [ended] at yields kept
  cases yields with
  | ok given => exact ensuresNext _ given reached kept
  | error raised => exact ⟨.error raised, kept⟩

/-- What is attempted fails no more: its faults are results. -/
theorem attempt
    {transition : Transition σ α}
    (ensures : Ensures invariant gives raises transition) :
    Ensures invariant (Yields gives raises) others transition.attempt := fun state holds =>
  ⟨.ok (ensures state holds).1, (ensures state holds).2⟩

theorem mapFault
    {transition : Transition σ α}
    {change : Fault → Fault}
    (ensures : Ensures invariant gives raises transition)
    (raising : ∀ fault, raises fault → others (change fault)) :
    Ensures invariant gives others (transition.mapFault change) := by
  intro state holds
  obtain ⟨yields, kept⟩ := ensures state holds
  refine ⟨?_, kept⟩
  rw [mapFault_apply]
  cases ended : (transition state).1 with
  | ok given =>
      rw [ended] at yields
      cases yields with
      | ok holds => exact .ok holds
  | error fault =>
      rw [ended] at yields
      cases yields with
      | error raised => exact .error (raising fault raised)

end Ensures

end Transition
end RequestFlow
