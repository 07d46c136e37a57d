import RequestFlow.Registry.Lookup

/-!
# The registry of the built-in nodes

A registry that has nothing but the built-in nodes, and looks nowhere else, answers for each type
with the built-in node of that type. Looking one up may replace its factory by what the factory
makes, which changes no answer.
-/

namespace RequestFlow

namespace Registry

variable {ν : Type}

/-- A registry of the built-in nodes and nothing else: whatever is there or can be made is the
built-in node of its type, every built-in node is there or can be made, and there is no other place
to look. -/
structure ExactlyBuiltins (registry : Registry ν Builtin) : Prop where
  /-- Nothing is discovered. -/
  discovery : registry.discovery = none
  /-- Every handler is that of its type. -/
  handler : ∀ typeTag builtin,
    registry.handlers.get? typeTag = some builtin → Builtin.ofType? typeTag = some builtin
  /-- Every factory makes the handler of its type and does nothing else. -/
  factory : ∀ typeTag make,
    registry.factories.get? typeTag = some make →
      ∃ builtin, make = pure builtin ∧ Builtin.ofType? typeTag = some builtin
  /-- Every type has a handler or a factory. -/
  known : ∀ typeTag builtin,
    Builtin.ofType? typeTag = some builtin →
      registry.handlers.get? typeTag = none → registry.factories.get? typeTag ≠ none

/-- The registry that has been given the built-in nodes has exactly these. -/
theorem exactlyBuiltins_withBuiltins
    (outside : ν) :
    (withBuiltins id { outside := outside } : Registry ν Builtin).ExactlyBuiltins := by
  have ready : ∀ typeTag,
      (withBuiltins id { outside := outside } : Registry ν Builtin).handlers.get? typeTag =
        Builtin.ready.lookup typeTag :=
    fun typeTag => Assoc.get?_eq_lookup typeTag Builtin.ready
  have made : ∀ typeTag,
      (withBuiltins id { outside := outside } : Registry ν Builtin).factories.get? typeTag =
        if "validation" == typeTag then some (pure .validation) else none := fun _ => rfl
  have either : ∀ typeTag, Builtin.ofType? typeTag =
      (Builtin.ready.lookup typeTag).or (Builtin.made.lookup typeTag) :=
    fun _ => List.lookup_append
  refine ⟨rfl, ?_, ?_, ?_⟩
  · intro typeTag builtin there
    rw [either, ← ready, there]
    rfl
  · intro typeTag make there
    rw [made] at there
    split at there
    · next same =>
        obtain rfl := eq_of_beq same
        exact ⟨.validation, (Option.some.inj there).symm, by decide⟩
    · cases there
  · intro typeTag builtin some_builtin absent
    rw [either, ← ready, absent, Option.none_or] at some_builtin
    rw [made]
    split
    · simp
    · next different =>
        have passed : (typeTag == "validation") = false :=
          beq_eq_false_iff_ne.2 fun same => different (by simp [same])
        simp [Builtin.made, List.lookup_cons, passed] at some_builtin

variable {files : FileTree} {load : PackageLoader ν Builtin} {typeTag : String}
  {registry : Registry ν Builtin}

theorem resolve_of_handler
    {builtin : Builtin}
    (there : registry.handlers.get? typeTag = some builtin) :
    resolve files load typeTag registry = (.ok (some builtin), registry) := by
  simp [resolve, ready?, Transition.bind_apply, there]

theorem resolve_of_factory
    {builtin : Builtin}
    (absent : registry.handlers.get? typeTag = none)
    (made : registry.factories.get? typeTag = some (pure builtin)) :
    resolve files load typeTag registry =
      (.ok (some builtin),
        { registry with
          factories := registry.factories.erase typeTag
          handlers := registry.handlers.put typeTag builtin }) := by
  simp [resolve, search, provide?, make?, ready?, Transition.bind_apply, absent, made, outsideStep,
    register]

theorem resolve_of_unknown
    (nowhere : registry.discovery = none)
    (absent : registry.handlers.get? typeTag = none)
    (unmade : registry.factories.get? typeTag = none) :
    resolve files load typeTag registry = (.ok none, registry) := by
  simp [resolve, search, provide?, make?, ready?, discover, Transition.bind_apply, absent, unmade,
    nowhere]

/-- A type is answered with its built-in node, and the registry stays one of the built-in nodes. -/
theorem ExactlyBuiltins.resolve
    (builtins : registry.ExactlyBuiltins) :
    (resolve files load typeTag registry).1 = .ok (Builtin.ofType? typeTag) ∧
      (resolve files load typeTag registry).2.ExactlyBuiltins := by
  cases there : registry.handlers.get? typeTag with
  | some builtin =>
      rw [resolve_of_handler there, builtins.handler typeTag builtin there]
      exact ⟨rfl, builtins⟩
  | none =>
      cases made : registry.factories.get? typeTag with
      | some make =>
          obtain ⟨builtin, rfl, typed⟩ := builtins.factory typeTag make made
          rw [resolve_of_factory there made, typed]
          refine ⟨rfl, builtins.discovery, ?_, ?_, ?_⟩
          · intro other found there_now
            by_cases same : other = typeTag
            · subst same
              rw [Assoc.get?_put_self] at there_now
              rw [typed, there_now]
            · rw [Assoc.get?_put_of_ne same] at there_now
              exact builtins.handler other found there_now
          · intro other found made_now
            by_cases same : other = typeTag
            · subst same
              rw [Assoc.get?_erase_self] at made_now
              cases made_now
            · rw [Assoc.get?_erase_of_ne same] at made_now
              exact builtins.factory other found made_now
          · intro other found other_typed absent
            have different : other ≠ typeTag := by
              rintro rfl
              rw [Assoc.get?_put_self] at absent
              cases absent
            rw [Assoc.get?_put_of_ne different] at absent
            rw [Assoc.get?_erase_of_ne different]
            exact builtins.known other found other_typed absent
      | none =>
          rw [resolve_of_unknown builtins.discovery there made]
          refine ⟨?_, builtins⟩
          cases typed : Builtin.ofType? typeTag with
          | none => rfl
          | some builtin => exact absurd made (builtins.known typeTag builtin typed there)

end Registry
end RequestFlow
