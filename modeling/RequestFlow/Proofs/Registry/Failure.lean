import RequestFlow.Proofs.Assoc
import RequestFlow.Proofs.Flow.Alike
import RequestFlow.Proofs.Registry.Provision

/-!
# Factories that fail

A factory is taken out of the registry before it runs, and nothing puts it back if it fails. The
call that ran it ends with its fault, and the registry has forgotten the type: unless a package has
a handler for it, the type is unknown from then on. All other types are answered as if the factory
had never been there, which for them makes no difference.
-/

namespace RequestFlow
namespace Registry

open Transition

variable {ν η : Type} {typeTag other : String} {make : Transition ν η} {fault : Fault} {outside : ν}
  {registry : Registry ν η}

/-- The registry without the factory of a type. -/
def withoutFactory (typeTag : String) (registry : Registry ν η) : Registry ν η :=
  { registry with factories := registry.factories.erase typeTag }

/-- The types of a registry are those it knows without looking into packages. -/
theorem mem_types :
    typeTag ∈ registry.types ↔ registry.has typeTag = true := by
  rw [types, List.mem_eraseDups, List.mem_mergeSort, List.mem_append, has, Bool.or_eq_true,
    Assoc.has_iff_mem_keys, Assoc.has_iff_mem_keys]

theorem has_withoutFactory_of_ne
    (different : other ≠ typeTag) :
    (registry.withoutFactory typeTag).has other = registry.has other := by
  simp only [has, Assoc.has_eq_isSome_get?, withoutFactory]
  rw [Assoc.get?_erase_of_ne different]

/-! ## Other types -/

/-- The second registry is the first without the factory of a type. -/
def Lacks (typeTag : String) (registry lacking : Registry ν η) : Prop :=
  lacking = registry.withoutFactory typeTag

/-- A change of the other parts of a registry does not see whether a factory is there. -/
theorem alike_modify_lacks
    {change : Registry ν η → Registry ν η}
    (apart : ∀ registry, change (registry.withoutFactory typeTag) =
      (change registry).withoutFactory typeTag) :
    Alike (Lacks typeTag) (modify change) (modify change) := by
  refine alike_modify ?_
  rintro registry _ rfl
  exact apart registry

theorem alike_register_lacks
    (other : String)
    (handler : η) :
    Alike (Lacks (ν := ν) typeTag) (modify (register other handler))
      (modify (register other handler)) :=
  alike_modify_lacks fun _ => rfl

theorem alike_remember_lacks
    (location : Location)
    (package : NodePackage ν η) :
    Alike (Lacks typeTag) (modify (remember location package))
      (modify (remember location package)) :=
  alike_modify_lacks fun _ => rfl

theorem alike_outsideStep_lacks
    {α : Type}
    (transition : Transition ν α) :
    Alike (Lacks (η := η) typeTag) (outsideStep transition) (outsideStep transition) := by
  rintro registry _ rfl
  exact ⟨rfl, rfl⟩

theorem alike_make?_lacks
    (different : other ≠ typeTag) :
    Alike (Lacks typeTag) (make? other : Transition (Registry ν η) (Option η)) (make? other) := by
  refine (alike_read ?_).bind ?_
  · rintro registry _ rfl
    exact (Assoc.get?_erase_of_ne different _).symm
  · intro waiting
    cases waiting with
    | none => exact alike_pure none
    | some make =>
        refine (alike_modify_lacks ?_).bind fun _ => (alike_outsideStep_lacks make).bind ?_
        · intro registry
          rw [withoutFactory, withoutFactory, Assoc.erase_comm]
        · intro handler
          exact (alike_register_lacks other handler).bind fun _ => alike_pure _

theorem alike_provide?_lacks
    (different : other ≠ typeTag) :
    Alike (Lacks typeTag) (provide? other : Transition (Registry ν η) (Option η))
      (provide? other) := by
  refine (alike_read ?_).bind ?_
  · rintro registry _ rfl
    rfl
  · intro there
    cases there with
    | none => exact alike_make?_lacks different
    | some handler => exact alike_pure _

theorem alike_package?_lacks
    (files : FileTree)
    (load : PackageLoader ν η)
    (location : Location) :
    Alike (Lacks typeTag) (package? files load location) (package? files load location) := by
  refine (alike_read ?_).bind ?_
  · rintro registry _ rfl
    rfl
  · intro loaded
    cases loaded with
    | some package => exact alike_pure _
    | none =>
        have alikeLoad :
            Alike (Lacks typeTag) (loadPackage files load location)
              (loadPackage files load location) := by
          unfold loadPackage
          cases files.find location with
          | file content => exact alike_outsideStep_lacks _
          | _ => exact alike_pure none
        refine alikeLoad.attempt.bind ?_
        rintro (fault | package?)
        · exact alike_pure none
        · cases package? with
          | none => exact alike_pure none
          | some package =>
              exact (alike_remember_lacks location package).bind fun _ => alike_pure _

theorem alike_registerMade_lacks
    (other : String)
    (make : Transition ν η) :
    Alike (Lacks typeTag) (registerMade other make) (registerMade other make) := by
  refine (alike_outsideStep_lacks make).attempt.bind ?_
  rintro (fault | handler)
  · exact alike_pure false
  · exact (alike_register_lacks other handler).bind fun _ => alike_pure true

theorem alike_adopt_lacks
    (files : FileTree)
    (load : PackageLoader ν η)
    (manifest : Location)
    (other : String)
    (entry : Fields) :
    Alike (Lacks typeTag) (adopt files load manifest other entry)
      (adopt files load manifest other entry) := by
  refine (alike_ofExcept _).bind fun location => (alike_ofExcept _).bind fun there => ?_
  cases there with
  | false => exact alike_pure false
  | true =>
      refine (alike_package?_lacks files load location).bind ?_
      rintro (_ | package)
      · exact alike_pure false
      · refine (alike_ofExcept _).bind fun name => ?_
        cases package.maker? name with
        | none => exact alike_pure false
        | some make => exact alike_registerMade_lacks other make

theorem alike_discover_lacks
    (files : FileTree)
    (load : PackageLoader ν η)
    (other : String) :
    Alike (Lacks typeTag) (discover files load other) (discover files load other) := by
  refine (alike_read ?_).bind ?_
  · rintro registry _ rfl
    rfl
  · rintro (_ | discovery)
    · exact alike_pure false
    · refine (alike_ofExcept _).bind ?_
      rintro (_ | entry)
      · exact alike_pure false
      · exact alike_adopt_lacks files load discovery.manifest other entry

/-- A type is looked up without regard to the factories of others. -/
theorem alike_resolve_lacks
    (files : FileTree)
    (load : PackageLoader ν η)
    (different : other ≠ typeTag) :
    Alike (Lacks typeTag) (resolve files load other) (resolve files load other) := by
  refine (alike_read ?_).bind ?_
  · rintro registry _ rfl
    rfl
  · rintro (_ | handler)
    · refine (alike_provide?_lacks different).bind ?_
      rintro (_ | handler)
      · refine (alike_discover_lacks files load other).bind ?_
        rintro (_ | _)
        · exact alike_pure none
        · exact alike_provide?_lacks different
      · exact alike_pure _
    · exact alike_pure _

/-- What look-ups of types answer, one after the other. A look-up that fails does not end them. -/
def answers (files : FileTree) (load : PackageLoader ν η) :
    List String → Transition (Registry ν η) (List (Except Fault (Option η)))
  | [] => pure []
  | typeTag :: rest => do
    let answer ← (resolve files load typeTag).attempt
    let others ← answers files load rest
    pure (answer :: others)

theorem alike_answers_lacks
    (files : FileTree)
    (load : PackageLoader ν η)
    {asked : List String}
    (different : typeTag ∉ asked) :
    Alike (Lacks typeTag) (answers files load asked) (answers files load asked) := by
  induction asked with
  | nil => exact alike_pure []
  | cons other rest inductionHypothesis =>
      rw [List.mem_cons, not_or] at different
      refine (alike_resolve_lacks files load (Ne.symm different.1)).attempt.bind fun answer => ?_
      exact (inductionHypothesis different.2).bind fun _ => alike_pure _

/-! ## The type itself -/

/-- A type that has neither a handler nor a factory is left to the packages. -/
theorem resolve_of_not_has
    (unknown : registry.has typeTag = false)
    (files : FileTree)
    (load : PackageLoader ν η) :
    resolve files load typeTag registry =
      (discover files load typeTag >>= fun found =>
        if found = true then provide? typeTag else pure none) registry := by
  rw [has, Assoc.has_eq_isSome_get?, Assoc.has_eq_isSome_get?, Bool.or_eq_false_iff,
    Option.isSome_eq_false_iff, Option.isSome_eq_false_iff, Option.isNone_iff_eq_none,
    Option.isNone_iff_eq_none] at unknown
  simp [resolve, search, provide?, make?, ready?, bind_apply, unknown]

/-- What is left of a registry that has lost the factory of a type: the type is not known any more
and, with no packages to look into, has no answer, while later look-ups of other types answer as
they would have. -/
structure Forgets
    (files : FileTree)
    (load : PackageLoader ν η)
    (typeTag : String)
    (registry after : Registry ν η) : Prop where
  /-- All types but the one are known as before. -/
  types : ∀ other, other ∈ after.types ↔ other ∈ registry.types ∧ other ≠ typeTag
  /-- Every series of look-ups without the type gives the same. -/
  others : ∀ asked, typeTag ∉ asked →
    (answers files load asked after).1 = (answers files load asked registry).1
  /-- The type is found no more, unless it can be discovered. -/
  itself : registry.discovery = none →
    resolve files load typeTag after = (.ok none, after)

theorem forgets_withoutFactory
    (absent : registry.handlers.get? typeTag = none)
    (files : FileTree)
    (load : PackageLoader ν η) :
    Forgets files load typeTag registry (registry.withoutFactory typeTag) := by
  have unknown : (registry.withoutFactory typeTag).has typeTag = false := by
    rw [has, Assoc.has_eq_isSome_get?, Assoc.has_eq_isSome_get?, withoutFactory,
      Assoc.get?_erase_self, absent]
    rfl
  constructor
  case types =>
    intro other
    rw [mem_types, mem_types]
    by_cases same : other = typeTag
    · subst same
      simp [unknown]
    · simp [has_withoutFactory_of_ne same, same]
  case others =>
    intro asked different
    exact (alike_answers_lacks files load different registry _ rfl).1.symm
  case itself =>
    intro nowhere
    rw [resolve_of_not_has unknown]
    simp [discover, bind_apply, withoutFactory, nowhere]

/-- If the factory of a type fails, the look-up fails with its fault, and the registry has forgotten
the type. -/
theorem resolve_of_failed_factory
    (absent : registry.handlers.get? typeTag = none)
    (waiting : registry.factories.get? typeTag = some make)
    (failed : make registry.outside = (.error fault, outside))
    (files : FileTree)
    (load : PackageLoader ν η) :
    ∃ after,
      resolve files load typeTag registry = (.error fault, after) ∧
        Forgets files load typeTag { registry with outside } after := by
  refine ⟨withoutFactory typeTag { registry with outside }, ?_, ?_⟩
  · rw [resolve_eq_search]
    simp [search, provide?, make?, ready?, bind_apply, absent, waiting, outsideStep, failed,
      withoutFactory]
  · have absentThen : ({ registry with outside } : Registry ν η).handlers.get? typeTag = none :=
      absent
    exact forgets_withoutFactory absentThen files load

namespace Sample

/-- A factory that fails when it is first called, and works from then on. -/
def hesitant : Transition Bool Nat :=
  fun called => (if called then .ok 7 else .error (.raised .runtime "not yet"), true)

/-- A registry with that factory and another one. -/
def waiting : Registry Bool Nat :=
  { factories := [("a", hesitant), ("b", pure 1)], outside := false }

/-- There are no packages. -/
def nothing : PackageLoader Bool Nat :=
  fun _ _ => pure none

end Sample

theorem resolve_of_failed_factory_hesitant :
    ∃ after,
      resolve {} Sample.nothing "a" Sample.waiting =
          (.error (.raised .runtime "not yet"), after) ∧
        Forgets {} Sample.nothing "a" { Sample.waiting with outside := true } after := by
  have absent : Sample.waiting.handlers.get? "a" = none := rfl
  have waiting : Sample.waiting.factories.get? "a" = some Sample.hesitant := rfl
  have failed : Sample.hesitant Sample.waiting.outside =
      (.error (.raised .runtime "not yet"), true) := rfl
  exact resolve_of_failed_factory absent waiting failed {} Sample.nothing

/-- The factory would work if it were called again, but the type is unknown. -/
theorem forgotten_after_failure :
    let after := (resolve {} Sample.nothing "a" Sample.waiting).2
    (resolve {} Sample.nothing "a" { Sample.waiting with outside := after.outside }).1.toOption =
        some (some 7) ∧
      (resolve {} Sample.nothing "a" after).1.toOption = some none ∧
      Sample.waiting.has "a" = true ∧ after.has "a" = false := by
  decide

end Registry
end RequestFlow
