import RequestFlow.Flow.Session

/-!
# Transitions that cannot be told apart

Two transitions are alike for a relation of states if, from related states, they give the same
result and end in related states. The relation says what an observer of results cannot see. It is
kept by sequences, and so two long transitions are alike as soon as their steps are.
-/

namespace RequestFlow

namespace Transition

variable {σ α β : Type} {related : σ → σ → Prop}

/-- From related states both transitions give the same result and end in related states. -/
def Alike
    (related : σ → σ → Prop)
    (first second : Transition σ α) : Prop :=
  ∀ state other, related state other →
    (first state).1 = (second other).1 ∧ related (first state).2 (second other).2

theorem alike_ofExcept (result : Except Fault α) :
    Alike related (ofExcept result) (ofExcept result) :=
  fun _ _ holds => ⟨rfl, holds⟩

theorem alike_pure (result : α) : Alike related (pure result) (pure result) :=
  alike_ofExcept (.ok result)

theorem alike_fail (fault : Fault) :
    Alike related (fail fault : Transition σ α) (fail fault) :=
  alike_ofExcept (.error fault)

/-- Reading what related states have in common gives the same result. -/
theorem alike_read
    {part : σ → α}
    (same : ∀ state other, related state other → part state = part other) :
    Alike related (read part) (read part) :=
  fun state other holds => ⟨congrArg Except.ok (same state other holds), holds⟩

theorem alike_modify
    {change : σ → σ}
    (keeps : ∀ state other, related state other → related (change state) (change other)) :
    Alike related (modify change) (modify change) :=
  fun state other holds => ⟨rfl, keeps state other holds⟩

/-- Both results are the same fault, or neither is a fault and the two fit each other. -/
inductive Fit
    (fits : α → α → Prop) : Except Fault α → Except Fault α → Prop
  | ok {result other : α} : fits result other → Fit fits (.ok result) (.ok other)
  | error (fault : Fault) : Fit fits (.error fault) (.error fault)

theorem Fit.refl
    {fits : α → α → Prop}
    {result : Except Fault α}
    (itself : ∀ given, result = .ok given → fits given given) :
    Fit fits result result := by
  cases result with
  | error fault => exact .error fault
  | ok given => exact .ok (itself given rfl)

/-- Sequences are alike if the results of their first parts fit each other, and what follows is
alike for any two that do. -/
theorem alike_bind_of_fit
    {fits : α → α → Prop}
    {first second : Transition σ α}
    {next further : α → Transition σ β}
    (fit : ∀ state other, related state other →
      Fit fits (first state).1 (second other).1 ∧ related (first state).2 (second other).2)
    (alikeNext : ∀ result other, fits result other → Alike related (next result) (further other)) :
    Alike related (first >>= next) (second >>= further) := by
  intro state other holds
  obtain ⟨same, kept⟩ := fit state other holds
  rw [bind_apply, bind_apply]
  rcases ended : first state with ⟨result, reached⟩
  rcases otherEnded : second other with ⟨otherResult, otherReached⟩
  rw [ended, otherEnded] at same kept
  cases same with
  | error fault => exact ⟨rfl, kept⟩
  | ok fitting => exact alikeNext _ _ fitting reached otherReached kept

/-- Sequences are alike if their first parts are, and what follows is for every result. -/
theorem Alike.bind
    {first second : Transition σ α}
    {next further : α → Transition σ β}
    (alike : Alike related first second)
    (alikeNext : ∀ result, Alike related (next result) (further result)) :
    Alike related (first >>= next) (second >>= further) := by
  have fit : ∀ state other, related state other →
      Fit Eq (first state).1 (second other).1 ∧ related (first state).2 (second other).2 := by
    intro state other holds
    obtain ⟨same, kept⟩ := alike state other holds
    rw [same]
    exact ⟨.refl fun _ _ => rfl, kept⟩
  refine alike_bind_of_fit fit ?_
  rintro result _ rfl
  exact alikeNext result

theorem Alike.attempt
    {first second : Transition σ α}
    (alike : Alike related first second) :
    Alike related first.attempt second.attempt := by
  intro state other holds
  obtain ⟨same, kept⟩ := alike state other holds
  exact ⟨congrArg Except.ok same, kept⟩

theorem Alike.mapFault
    {first second : Transition σ α}
    (alike : Alike related first second)
    (change : Fault → Fault) :
    Alike related (first.mapFault change) (second.mapFault change) := by
  intro state other holds
  obtain ⟨same, kept⟩ := alike state other holds
  exact ⟨congrArg (Except.mapError change) same, kept⟩

end Transition

namespace Session

open Transition

variable {ω α : Type} {related : ω → ω → Prop}

/-- Two sessions differ in the world outside alone, and there no further than the relation allows.
-/
inductive Related
    (related : ω → ω → Prop)
    (session : Session ω) : Session ω → Prop
  | outside (world : ω) :
      related session.world world → Related related session { session with world }

theorem related_eq_iff
    {session other : Session ω} :
    Related Eq session other ↔ session = other := by
  constructor
  · rintro ⟨_, rfl⟩
    rfl
  · rintro rfl
    exact .outside session.world rfl

/-- A change of the session that neither reads nor writes the world keeps the relation. -/
theorem alike_modify
    {change : Session ω → Session ω}
    (apart : ∀ session world, change { session with world } = { change session with world })
    (untouched : ∀ session, (change session).world = session.world) :
    Alike (Related related) (modify change) (modify change) := by
  refine Transition.alike_modify ?_
  rintro session _ ⟨world, holds⟩
  rw [apart session world]
  exact .outside world (by rwa [untouched])

theorem alike_remember (change : Memory → Memory) :
    Alike (Related related) (remember change) (remember change) :=
  alike_modify (fun _ _ => rfl) fun _ => rfl

theorem alike_respond (response : Response) :
    Alike (Related related) (respond response) (respond response) :=
  alike_modify (fun _ _ => rfl) fun _ => rfl

theorem alike_enterNode (node : String) :
    Alike (Related related) (enterNode node) (enterNode node) :=
  alike_modify (fun _ _ => rfl) fun _ => rfl

/-- Reading a part of the session that is not the world gives the same result. -/
theorem alike_read
    {part : Session ω → α}
    (apart : ∀ session world, part { session with world } = part session) :
    Alike (Related related) (read part) (read part) := by
  refine Transition.alike_read ?_
  rintro session _ ⟨world, _⟩
  exact (apart session world).symm

theorem Related.world
    {session other : Session ω}
    (holds : Related related session other) :
    related session.world other.world := by
  obtain ⟨world, holds⟩ := holds
  exact holds

/-- Steps of the world that end in related worlds end in related sessions. -/
theorem related_outside
    {session other : Session ω}
    {first second : Transition ω α}
    (holds : Related related session other)
    (kept : related (first session.world).2 (second other.world).2) :
    Related related (outside first session).2 (outside second other).2 := by
  obtain ⟨world, _⟩ := holds
  exact .outside _ kept

end Session
end RequestFlow
