import RequestFlow.Proofs.Assoc
import RequestFlow.Registry.Lookup

/-!
# Registries that look nowhere else

A registry without a manifest answers for a type with the handler that is there, or with the one its
factory makes, or not at all. There are no other ways, and each of them leaves what the registry has
for all other types as it is.
-/

namespace RequestFlow

/-- A transition that never fails. -/
def Transition.Returns {σ α : Type} (transition : Transition σ α) : Prop :=
  ∀ state, ∃ result reached, transition state = (.ok result, reached)

namespace Registry

variable {ν η : Type}

/-- A registry that looks for no types in packages, and none of whose factories fails. -/
structure SelfContained (registry : Registry ν η) : Prop where
  /-- Nothing is discovered. -/
  discovery : registry.discovery = none
  /-- Every factory returns a handler. -/
  factory : ∀ entry ∈ registry.factories, entry.2.Returns

/-- The ways in which such a registry answers for a type, with the registry that is left. -/
inductive Provides (typeTag : String) (registry : Registry ν η) : Option η → Registry ν η → Prop
  | ready {handler} :
      registry.handlers.get? typeTag = some handler →
      Provides typeTag registry (some handler) registry
  | made {make handler outside} :
      registry.handlers.get? typeTag = none →
      registry.factories.get? typeTag = some make →
      make registry.outside = (.ok handler, outside) →
      Provides typeTag registry (some handler)
        { registry with
          handlers := registry.handlers.put typeTag handler
          factories := registry.factories.erase typeTag
          outside }
  | unknown :
      registry.handlers.get? typeTag = none →
      registry.factories.get? typeTag = none →
      Provides typeTag registry none registry

variable {typeTag other : String} {handler : η} {found : Option η} {registry after : Registry ν η}
  {files : FileTree} {load : PackageLoader ν η}

/-! ## Looking up -/

theorem SelfContained.search
    (contained : registry.SelfContained)
    (files : FileTree)
    (load : PackageLoader ν η)
    (typeTag : String) :
    ∃ found after, search files load typeTag registry = (.ok found, after) ∧
      registry.Provides typeTag found after := by
  cases there : registry.handlers.get? typeTag with
  | some handler =>
      refine ⟨some handler, registry, ?_, .ready there⟩
      simp [Registry.search, provide?, ready?, Transition.bind_apply, there]
  | none =>
      cases waiting : registry.factories.get? typeTag with
      | some make =>
          obtain ⟨handler, outside, made⟩ :=
            Assoc.of_get? Transition.Returns contained.factory waiting registry.outside
          refine ⟨some handler, _, ?_, .made there waiting made⟩
          simp [Registry.search, provide?, make?, ready?, Transition.bind_apply, there, waiting,
            outsideStep, made, register]
      | none =>
          refine ⟨none, registry, ?_, .unknown there waiting⟩
          simp [Registry.search, provide?, make?, ready?, discover, Transition.bind_apply, there,
            waiting, contained.discovery]

/-- A look-up outside the lock changes nothing about the answer. -/
theorem resolve_eq_search
    (files : FileTree)
    (load : PackageLoader ν η)
    (typeTag : String)
    (registry : Registry ν η) :
    resolve files load typeTag registry = search files load typeTag registry := by
  cases there : registry.handlers.get? typeTag with
  | some handler => simp [resolve, search, provide?, ready?, Transition.bind_apply, there]
  | none => simp [resolve, ready?, Transition.bind_apply, there]

theorem SelfContained.resolve
    (contained : registry.SelfContained)
    (files : FileTree)
    (load : PackageLoader ν η)
    (typeTag : String) :
    ∃ found after, resolve files load typeTag registry = (.ok found, after) ∧
      registry.Provides typeTag found after := by
  rw [resolve_eq_search]
  exact contained.search files load typeTag

/-- Without packages to look into, the answer for a type is its handler, or what its factory makes
of the state that packages keep. -/
theorem resolve_congr
    {first second : ν}
    (same_handler : after.handlers.get? typeTag = registry.handlers.get? typeTag)
    (same_factory : after.factories.get? typeTag = registry.factories.get? typeTag)
    (nowhere : registry.discovery = none)
    (nowhere_after : after.discovery = none)
    (same_made : ∀ make, registry.factories.get? typeTag = some make →
      (make first).1 = (make second).1) :
    (resolve files load typeTag { after with outside := first }).1 =
      (resolve files load typeTag { registry with outside := second }).1 := by
  rw [resolve_eq_search, resolve_eq_search]
  cases there : registry.handlers.get? typeTag with
  | some handler =>
      simp [search, provide?, ready?, Transition.bind_apply, same_handler, there]
  | none =>
      cases waiting : registry.factories.get? typeTag with
      | some make =>
          have same := same_made make waiting
          cases made : make first with
          | mk result reached =>
              cases made_again : make second with
              | mk result_again reached_again =>
                  rw [made, made_again] at same
                  obtain rfl : result = result_again := same
                  cases result <;>
                    simp [search, provide?, make?, ready?, Transition.bind_apply, outsideStep,
                      same_handler, there, same_factory, waiting, made, made_again]
      | none =>
          simp [search, provide?, make?, ready?, discover, Transition.bind_apply, same_handler,
            there, same_factory, waiting, nowhere, nowhere_after]

/-! ## What an answer leaves behind -/

theorem Provides.selfContained
    (provides : registry.Provides typeTag found after)
    (contained : registry.SelfContained) :
    after.SelfContained := by
  cases provides with
  | ready _ => exact contained
  | unknown _ _ => exact contained
  | made _ _ _ =>
      refine ⟨contained.discovery, ?_⟩
      intro entry member
      exact contained.factory entry (List.mem_filter.1 member).1

/-- A handler that has been answered is there from then on. -/
theorem Provides.there
    (provides : registry.Provides typeTag (some handler) after) :
    after.handlers.get? typeTag = some handler := by
  cases provides with
  | ready there => exact there
  | made _ _ _ => exact Assoc.get?_put_self _ _ _

/-- A handler that is there is the answer. -/
theorem Provides.eq_some
    (provides : registry.Provides typeTag found after)
    (there : registry.handlers.get? typeTag = some handler) :
    found = some handler := by
  cases provides with
  | ready found_there => rw [← found_there, there]
  | made absent _ _ => rw [absent] at there; cases there
  | unknown absent _ => rw [absent] at there; cases there

/-- A type that the registry knows has an answer. -/
theorem Provides.isSome_of_has
    (provides : registry.Provides typeTag found after)
    (known : registry.has typeTag = true) :
    found.isSome := by
  cases provides with
  | ready _ => rfl
  | made _ _ _ => rfl
  | unknown absent unmade =>
      rw [has, Assoc.has_eq_isSome_get?, Assoc.has_eq_isSome_get?, absent, unmade] at known
      cases known

theorem Provides.handlers_of_ne
    (provides : registry.Provides typeTag found after)
    (different : other ≠ typeTag) :
    after.handlers.get? other = registry.handlers.get? other := by
  cases provides with
  | ready _ => rfl
  | made _ _ _ => exact Assoc.get?_put_of_ne different _ _
  | unknown _ _ => rfl

theorem Provides.factories_of_ne
    (provides : registry.Provides typeTag found after)
    (different : other ≠ typeTag) :
    after.factories.get? other = registry.factories.get? other := by
  cases provides with
  | ready _ => rfl
  | made _ _ _ => exact Assoc.get?_erase_of_ne different _
  | unknown _ _ => rfl

theorem Provides.has_of_ne
    (provides : registry.Provides typeTag found after)
    (different : other ≠ typeTag) :
    after.has other = registry.has other := by
  simp only [has, Assoc.has_eq_isSome_get?]
  rw [provides.handlers_of_ne different, provides.factories_of_ne different]

/-- A handler that is there stays, whatever type is asked for. -/
theorem Provides.keeps
    (provides : registry.Provides typeTag found after)
    (there : registry.handlers.get? other = some handler) :
    after.handlers.get? other = some handler := by
  by_cases same : other = typeTag
  · subst same
    rw [provides.eq_some there] at provides
    exact provides.there
  · rw [provides.handlers_of_ne same]
    exact there

/-- A type that is known stays known, whatever type is asked for. -/
theorem Provides.keeps_has
    (provides : registry.Provides typeTag found after)
    (known : registry.has other = true) :
    after.has other = true := by
  by_cases same : other = typeTag
  · subst same
    obtain ⟨handler, rfl⟩ := Option.isSome_iff_exists.1 (provides.isSome_of_has known)
    rw [has, Assoc.has_eq_isSome_get?, provides.there]
    rfl
  · rw [provides.has_of_ne same]
    exact known

/-- Any other type is answered as before from every state in which its factory, if that is still
waiting, makes what it would have made. -/
theorem Provides.resolve_of_ne
    (provides : registry.Provides typeTag found after)
    (contained : registry.SelfContained)
    (different : other ≠ typeTag)
    {first second : ν}
    (same_made : ∀ make, registry.factories.get? other = some make →
      (make first).1 = (make second).1) :
    (Registry.resolve files load other { after with outside := first }).1 =
      (Registry.resolve files load other { registry with outside := second }).1 :=
  resolve_congr (provides.handlers_of_ne different) (provides.factories_of_ne different)
    contained.discovery (provides.selfContained contained).discovery same_made

end Registry
end RequestFlow
