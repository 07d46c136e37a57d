import RequestFlow.Proofs.Registry.Provision

/-!
# Registries over time

A registry is given handlers and factories and is asked for types, in any order. A look-up reads the
handlers first and takes a lock only if it finds none there, so whatever else happens may come
between the reading and what is done under the lock. Over every such history a factory is called at
most once for each time it was registered, an answer stays until its type is given another handler,
a known type stays known, and a look-up touches no type but its own.
-/

namespace RequestFlow

/-- The state that factories work on, together with the calls of factories so far. -/
structure Watched (κ ν : Type) where
  /-- What has been called, latest last. -/
  calls : List κ := []
  /-- The state that packages keep. -/
  outside : ν

namespace Watched

variable {κ ν η : Type}

/-- A factory that first notes its label. -/
def call (label : κ) (make : Transition ν η) : Transition (Watched κ ν) η := do
  .modify fun watched => { watched with calls := watched.calls ++ [label] }
  .onPart (·.outside) (fun outside watched => { watched with outside }) make

theorem call_apply
    (label : κ)
    (make : Transition ν η)
    (watched : Watched κ ν) :
    call label make watched =
      ((make watched.outside).1,
        { calls := watched.calls ++ [label], outside := (make watched.outside).2 }) :=
  rfl

theorem returns_call
    {make : Transition ν η}
    (returns : make.Returns)
    (label : κ) :
    (call label make).Returns := by
  intro watched
  obtain ⟨result, reached, made⟩ := returns watched.outside
  refine ⟨result, { calls := watched.calls ++ [label], outside := reached }, ?_⟩
  rw [call_apply, made]

end Watched

namespace Registry

/-- What can happen to a registry. A factory has a label, which may tell its registration from all
others. A look-up that other events interrupt is two events: it reads the handlers, and if it found
none there it later searches under the lock. -/
inductive Event (κ ν η : Type)
  | register (typeTag : String) (handler : η)
  | registerFactory (typeTag : String) (label : κ) (make : Transition ν η)
  | resolve (typeTag : String)
  | read (typeTag : String)
  | search (typeTag : String)

variable {κ ν η : Type}

namespace Event

/-- The type that an event is about. -/
def typeTag : Event κ ν η → String
  | register typeTag _ => typeTag
  | registerFactory typeTag _ _ => typeTag
  | resolve typeTag => typeTag
  | read typeTag => typeTag
  | search typeTag => typeTag

/-- Whether an event makes its type known. -/
def Registers : Event κ ν η → Prop
  | register _ _ => True
  | registerFactory _ _ _ => True
  | _ => False

/-- Whether an event registers a factory with a label. -/
def labelled [DecidableEq κ] (label : κ) : Event κ ν η → Bool
  | registerFactory _ given _ => given == label
  | _ => false

/-- The factory that an event registers never fails. -/
def Returns : Event κ ν η → Prop
  | registerFactory _ _ make => make.Returns
  | _ => True

/-- The registry after an event. -/
def step (files : FileTree) (load : PackageLoader (Watched κ ν) η) :
    Event κ ν η → Registry (Watched κ ν) η → Registry (Watched κ ν) η
  | register typeTag handler, registry => registry.register typeTag handler
  | registerFactory typeTag label make, registry =>
    registry.registerFactory typeTag (Watched.call label make)
  | resolve typeTag, registry => (registry.resolve files load typeTag).2
  | read _, registry => registry
  | search typeTag, registry => (registry.search files load typeTag).2

/-- What an event answers. A reading answers only if it finds a handler, since otherwise the look-up
goes on. -/
def answer? (files : FileTree) (load : PackageLoader (Watched κ ν) η) :
    Event κ ν η → Registry (Watched κ ν) η → Option (Except Fault (Option η))
  | resolve typeTag, registry => some (registry.resolve files load typeTag).1
  | read typeTag, registry => (registry.ready? typeTag).map fun handler => .ok (some handler)
  | search typeTag, registry => some (registry.search files load typeTag).1
  | _, _ => none

end Event

/-- A registry in which nothing is registered. -/
def blank (outside : ν) : Registry (Watched κ ν) η :=
  { outside := { outside } }

/-- The registry after a history. -/
def after (files : FileTree) (load : PackageLoader (Watched κ ν) η) (history : List (Event κ ν η))
    (registry : Registry (Watched κ ν) η) : Registry (Watched κ ν) η :=
  history.foldl (fun reached event => event.step files load reached) registry

variable {files : FileTree} {load : PackageLoader (Watched κ ν) η} {event asked : Event κ ν η}
  {history : List (Event κ ν η)} {registry : Registry (Watched κ ν) η} {typeTag : String}
  {handler : η} {answer : Except Fault (Option η)}

/-! ## What an event does -/

/-- An answer is one that the registry provides, and leaves the registry as that does. -/
theorem SelfContained.of_answer
    (contained : registry.SelfContained)
    (answered : asked.answer? files load registry = some answer) :
    ∃ found, answer = .ok found ∧
      registry.Provides asked.typeTag found (asked.step files load registry) := by
  cases asked with
  | register _ _ => cases answered
  | registerFactory _ _ _ => cases answered
  | resolve typeTag =>
      obtain ⟨found, reached, resolved, provides⟩ := contained.resolve files load typeTag
      rw [Event.answer?, resolved] at answered
      cases answered
      refine ⟨found, rfl, ?_⟩
      rw [Event.step, resolved]
      exact provides
  | read typeTag =>
      obtain ⟨handler, there, rfl⟩ := Option.map_eq_some_iff.1 answered
      exact ⟨some handler, rfl, .ready there⟩
  | search typeTag =>
      obtain ⟨found, reached, searched, provides⟩ := contained.search files load typeTag
      rw [Event.answer?, searched] at answered
      cases answered
      refine ⟨found, rfl, ?_⟩
      rw [Event.step, searched]
      exact provides

/-- What an event can do: it registers a handler or a factory, or it is a look-up that answers for
its type, or a reading that finds nothing and changes nothing. -/
theorem SelfContained.step_cases
    (contained : registry.SelfContained)
    (files : FileTree)
    (load : PackageLoader (Watched κ ν) η)
    (event : Event κ ν η) :
    (∃ given other, event = .register given other) ∨
      (∃ given label make, event = .registerFactory given label make) ∨
      (∃ found, registry.Provides event.typeTag found (event.step files load registry)) ∨
      event.step files load registry = registry := by
  cases answered : event.answer? files load registry with
  | some answer =>
      obtain ⟨found, -, provides⟩ := contained.of_answer answered
      exact .inr (.inr (.inl ⟨found, provides⟩))
  | none =>
      cases event with
      | register given other => exact .inl ⟨given, other, rfl⟩
      | registerFactory given label make => exact .inr (.inl ⟨given, label, make, rfl⟩)
      | resolve _ => cases answered
      | read _ => exact .inr (.inr (.inr rfl))
      | search _ => cases answered

theorem SelfContained.step
    (contained : registry.SelfContained)
    (returns : event.Returns) :
    (event.step files load registry).SelfContained := by
  rcases contained.step_cases files load event with
    ⟨given, other, rfl⟩ | ⟨given, label, make, rfl⟩ | ⟨found, provides⟩ | unchanged
  · exact ⟨contained.discovery, contained.factory⟩
  · refine ⟨contained.discovery, ?_⟩
    exact Assoc.forall_mem_put Transition.Returns contained.factory
      (Watched.returns_call returns label) given
  · exact provides.selfContained contained
  · rwa [unchanged]

/-- A handler stays until its type is given another one. -/
theorem SelfContained.handler_step
    (contained : registry.SelfContained)
    (unregistered : ∀ other, event ≠ .register typeTag other)
    (there : registry.handlers.get? typeTag = some handler) :
    (event.step files load registry).handlers.get? typeTag = some handler := by
  rcases contained.step_cases files load event with
    ⟨given, other, rfl⟩ | ⟨given, label, make, rfl⟩ | ⟨found, provides⟩ | unchanged
  · have different : typeTag ≠ given := by
      rintro rfl
      exact unregistered other rfl
    rw [Event.step, register, Assoc.get?_put_of_ne different]
    exact there
  · exact there
  · exact provides.keeps there
  · rwa [unchanged]

/-- A known type stays known. -/
theorem SelfContained.has_step
    (contained : registry.SelfContained)
    (known : registry.has typeTag = true) :
    (event.step files load registry).has typeTag = true := by
  rcases contained.step_cases files load event with
    ⟨given, other, rfl⟩ | ⟨given, label, make, rfl⟩ | ⟨found, provides⟩ | unchanged
  · rw [has, Bool.or_eq_true] at known ⊢
    exact known.imp_left (Assoc.has_put given other)
  · rw [has, Bool.or_eq_true] at known ⊢
    exact known.imp_right (Assoc.has_put given _)
  · exact provides.keeps_has known
  · rwa [unchanged]

/-- Registering a type makes it known. -/
theorem has_step_of_registers
    (registers : event.Registers) :
    (event.step files load registry).has event.typeTag = true := by
  rw [has, Bool.or_eq_true]
  cases event with
  | register typeTag handler => exact .inl (Assoc.has_put_self typeTag handler _)
  | registerFactory typeTag label make => exact .inr (Assoc.has_put_self typeTag _ _)
  | resolve _ => cases registers
  | read _ => cases registers
  | search _ => cases registers

/-! ## What a history keeps -/

theorem selfContained_blank (outside : ν) :
    (blank outside : Registry (Watched κ ν) η).SelfContained :=
  ⟨rfl, nofun⟩

theorem after_cons
    (event : Event κ ν η)
    (later : List (Event κ ν η))
    (registry : Registry (Watched κ ν) η) :
    after files load (event :: later) registry =
      after files load later (event.step files load registry) :=
  rfl

theorem after_append
    (earlier later : List (Event κ ν η))
    (registry : Registry (Watched κ ν) η) :
    after files load (earlier ++ later) registry =
      after files load later (after files load earlier registry) :=
  List.foldl_append

/-- What every event of a history keeps, beside the registry being self-contained, the history
keeps. -/
theorem SelfContained.keeps
    (holds : Registry (Watched κ ν) η → Prop)
    (returns : ∀ event ∈ history, event.Returns)
    (step : ∀ event ∈ history, ∀ reached : Registry (Watched κ ν) η,
      reached.SelfContained → holds reached → holds (event.step files load reached))
    (contained : registry.SelfContained)
    (start : holds registry) :
    (after files load history registry).SelfContained ∧
      holds (after files load history registry) := by
  induction history generalizing registry with
  | nil => exact ⟨contained, start⟩
  | cons event later inductionHypothesis =>
      apply inductionHypothesis
      · intro other member
        exact returns other (List.mem_cons_of_mem _ member)
      · intro other member
        exact step other (List.mem_cons_of_mem _ member)
      · exact contained.step (returns event List.mem_cons_self)
      · exact step event List.mem_cons_self registry contained start

theorem SelfContained.after
    (contained : registry.SelfContained)
    (returns : ∀ event ∈ history, event.Returns) :
    (after files load history registry).SelfContained :=
  (contained.keeps (fun _ => True) returns (fun _ _ _ _ _ => trivial) trivial).1

/-- A type that has a handler is answered with it, until it is given another one. -/
theorem SelfContained.answer_of_handler
    (contained : registry.SelfContained)
    (returns : ∀ event ∈ history, event.Returns)
    (unregistered : ∀ event ∈ history, ∀ other, event ≠ .register asked.typeTag other)
    (there : registry.handlers.get? asked.typeTag = some handler)
    (answered : asked.answer? files load (Registry.after files load history registry) =
      some answer) :
    answer = .ok (some handler) := by
  obtain ⟨contained_after, there_after⟩ := contained.keeps
    (fun reached => reached.handlers.get? asked.typeTag = some handler) returns
    (fun event member _ contained there => contained.handler_step (unregistered event member) there)
    there
  obtain ⟨found, rfl, provides⟩ := contained_after.of_answer answered
  rw [provides.eq_some there_after]

/-- A type that is known is answered with some handler. -/
theorem SelfContained.answer_of_has
    (contained : registry.SelfContained)
    (returns : ∀ event ∈ history, event.Returns)
    (known : registry.has asked.typeTag = true)
    (answered : asked.answer? files load (Registry.after files load history registry) =
      some answer) :
    ∃ handler, answer = .ok (some handler) := by
  obtain ⟨contained_after, known_after⟩ := contained.keeps
    (fun reached => reached.has asked.typeTag = true) returns
    (fun _ _ _ contained known => contained.has_step known) known
  obtain ⟨found, rfl, provides⟩ := contained_after.of_answer answered
  obtain ⟨handler, rfl⟩ := Option.isSome_iff_exists.1 (provides.isSome_of_has known_after)
  exact ⟨handler, rfl⟩

/-- A look-up leaves every other type known or unknown as it was, and its answer the same from every
state of which its factory, if that still waits, makes the same. -/
theorem SelfContained.others_of_step
    {other : String}
    (contained : registry.SelfContained)
    (asks : ¬ asked.Registers)
    (different : other ≠ asked.typeTag) :
    (asked.step files load registry).has other = registry.has other ∧
    (∀ shared,
      (Registry.resolve files load other
          { asked.step files load registry with outside := shared }).1 =
        (Registry.resolve files load other { registry with outside := shared }).1) ∧
    ((∀ make, registry.factories.get? other = some make →
        (make (asked.step files load registry).outside).1 = (make registry.outside).1) →
      (Registry.resolve files load other (asked.step files load registry)).1 =
        (Registry.resolve files load other registry).1) := by
  rcases contained.step_cases files load asked with
    ⟨given, handler, rfl⟩ | ⟨given, label, make, rfl⟩ | ⟨found, provides⟩ | unchanged
  · exact absurd trivial asks
  · exact absurd trivial asks
  · refine ⟨provides.has_of_ne different, ?_, ?_⟩
    · intro shared
      exact provides.resolve_of_ne contained different fun _ _ => rfl
    · intro same_made
      exact provides.resolve_of_ne contained different same_made
  · rw [unchanged]
    exact ⟨rfl, fun _ => rfl, fun _ => rfl⟩

/-! ## Calls of factories -/

section Calls

variable [DecidableEq κ]

/-- The calls that were made and the factories that still wait are no more, for each label, than
were registered. -/
def Accounted
    (registered : κ → Nat)
    (registry : Registry (Watched κ ν) η) : Prop :=
  ∃ waiting : Assoc String (κ × Transition ν η),
    registry.factories = waiting.map (fun entry =>
      (entry.1, Watched.call entry.2.1 entry.2.2)) ∧
    ∀ label, registry.outside.calls.count label +
      waiting.countP (fun entry => entry.2.1 == label) ≤ registered label

variable {registered : κ → Nat} {found : Option η} {next : Registry (Watched κ ν) η}

theorem accounted_blank (outside : ν) :
    (blank outside : Registry (Watched κ ν) η).Accounted fun _ => 0 :=
  ⟨[], rfl, fun _ => Nat.le_refl 0⟩

/-- A factory that is called waits no longer. -/
theorem Accounted.provides
    (accounted : registry.Accounted registered)
    (provides : registry.Provides typeTag found next) :
    next.Accounted registered := by
  cases provides with
  | ready _ => exact accounted
  | unknown _ _ => exact accounted
  | made _ pending made =>
      obtain ⟨waiting, factories_eq, bounded⟩ := accounted
      rw [factories_eq] at pending
      have unmapped := Assoc.get?_map (fun entry : κ × Transition ν η =>
        Watched.call entry.1 entry.2) typeTag waiting
      rw [unmapped] at pending
      obtain ⟨⟨label, make⟩, listed, rfl⟩ := Option.map_eq_some_iff.1 pending
      rw [Watched.call_apply] at made
      obtain ⟨-, rfl⟩ := Prod.mk.inj made
      refine ⟨waiting.erase typeTag, ?_, ?_⟩
      · rw [factories_eq]
        exact Assoc.erase_map (fun entry : κ × Transition ν η =>
          Watched.call entry.1 entry.2) typeTag waiting
      · intro counted
        have fewer := Assoc.countP_erase_add_le (fun entry => entry.1 == counted) listed
        have before := bounded counted
        rw [List.count_append, List.count_singleton]
        dsimp only at fewer ⊢
        omega

/-- An event adds at most the factory that it registers. -/
theorem Accounted.step
    (accounted : registry.Accounted registered)
    (contained : registry.SelfContained)
    (event : Event κ ν η) :
    (event.step files load registry).Accounted fun label =>
      registered label + if event.labelled label then 1 else 0 := by
  have onward : ∀ {reached : Registry (Watched κ ν) η}, reached.Accounted registered →
      reached.Accounted fun label => registered label + if event.labelled label then 1 else 0 := by
    rintro reached ⟨waiting, factories_eq, bounded⟩
    exact ⟨waiting, factories_eq, fun label =>
      Nat.le_trans (bounded label) (Nat.le_add_right _ _)⟩
  rcases contained.step_cases files load event with
    ⟨given, other, rfl⟩ | ⟨given, label, make, rfl⟩ | ⟨found, provides⟩ | unchanged
  · exact onward accounted
  · obtain ⟨waiting, factories_eq, bounded⟩ := accounted
    refine ⟨waiting.put given (label, make), ?_, ?_⟩
    · rw [Event.step, registerFactory, factories_eq]
      exact Assoc.put_map (fun entry : κ × Transition ν η =>
        Watched.call entry.1 entry.2) given (label, make) waiting
    · intro counted
      have more := Assoc.countP_put_le (fun entry => entry.1 == counted) given (label, make) waiting
      have before := bounded counted
      change registry.outside.calls.count counted + _ ≤
        registered counted + if label == counted then 1 else 0
      dsimp only at more ⊢
      omega
  · exact onward (accounted.provides provides)
  · rw [unchanged]
    exact onward accounted

theorem Accounted.after
    (accounted : registry.Accounted registered)
    (contained : registry.SelfContained)
    (returns : ∀ event ∈ history, event.Returns) :
    (after files load history registry).Accounted fun label =>
      registered label + history.countP (·.labelled label) := by
  induction history generalizing registry registered with
  | nil => exact accounted
  | cons event later inductionHypothesis =>
      have next_contained : (event.step files load registry).SelfContained :=
        contained.step (returns event List.mem_cons_self)
      obtain ⟨waiting, factories_eq, bounded⟩ := inductionHypothesis
        (accounted.step contained event) next_contained
        fun other member => returns other (List.mem_cons_of_mem _ member)
      refine ⟨waiting, factories_eq, fun label => ?_⟩
      have counted := bounded label
      dsimp only at counted ⊢
      rw [List.countP_cons, after_cons]
      omega

/-- Over every history of a registry that looks nowhere else and whose factories do not fail, with
look-ups that other events may interrupt:

* factories with a label are called at most as often as factories with that label were registered;
* a type that was answered with a handler is answered with it again, until it is given another one;
* a type that was registered is answered with a handler ever after;
* a look-up changes neither whether any other type is known, nor what that type is answered with.
  A factory that still waits is run on the state that all factories share, so there the answers
  are compared from one state, and from the states before and after if the factory makes the same
  of them. -/
theorem lookups_of_history
    (files : FileTree)
    (load : PackageLoader (Watched κ ν) η)
    (outside : ν)
    (history : List (Event κ ν η))
    (returns : ∀ event ∈ history, event.Returns) :
    (∀ label, (Registry.after files load history (blank outside)).outside.calls.count label ≤
      history.countP (·.labelled label)) ∧
    (∀ earlier asked between handler (later : Event κ ν η) answer,
      history = earlier ++ asked :: between →
      asked.answer? files load (Registry.after files load earlier (blank outside)) =
        some (.ok (some handler)) →
      (∀ event ∈ between, ∀ other, event ≠ .register asked.typeTag other) →
      later.typeTag = asked.typeTag →
      later.answer? files load (Registry.after files load history (blank outside)) = some answer →
      answer = .ok (some handler)) ∧
    (∀ event ∈ history, event.Registers → ∀ (later : Event κ ν η) answer,
      later.typeTag = event.typeTag →
      later.answer? files load (Registry.after files load history (blank outside)) = some answer →
      ∃ handler, answer = .ok (some handler)) ∧
    (∀ (asked : Event κ ν η) other, ¬ asked.Registers → other ≠ asked.typeTag →
      ∀ before next, before = Registry.after files load history (blank outside) →
      next = asked.step files load before →
      next.has other = before.has other ∧
      (∀ shared, (Registry.resolve files load other { next with outside := shared }).1 =
        (Registry.resolve files load other { before with outside := shared }).1) ∧
      ((∀ make, before.factories.get? other = some make →
          (make next.outside).1 = (make before.outside).1) →
        (Registry.resolve files load other next).1 =
          (Registry.resolve files load other before).1)) := by
  have contained : (blank outside : Registry (Watched κ ν) η).SelfContained :=
    selfContained_blank outside
  have contained_after : ∀ earlier, (∀ event ∈ earlier, event ∈ history) →
      (Registry.after files load earlier (blank outside)).SelfContained :=
    fun earlier part => contained.after fun event member => returns event (part event member)
  refine ⟨?_, ?_, ?_, ?_⟩
  · intro label
    have accounted : (Registry.after files load history (blank outside)).Accounted _ :=
      (accounted_blank outside).after contained returns
    obtain ⟨waiting, -, bounded⟩ := accounted
    have counted := bounded label
    dsimp only at counted
    omega
  · rintro earlier asked between handler later answer rfl answered unregistered same_tag again
    have earlier_contained := contained_after earlier fun _ => List.mem_append_left _
    obtain ⟨found, found_eq, provides⟩ := earlier_contained.of_answer answered
    cases found_eq
    rw [after_append, after_cons] at again
    have next_contained : (asked.step files load
        (Registry.after files load earlier (blank outside))).SelfContained :=
      earlier_contained.step (returns asked (by simp))
    apply next_contained.answer_of_handler _ _ _ again
    · intro event member
      exact returns event (by simp [member])
    · rwa [same_tag]
    · rw [same_tag]
      exact provides.there
  · intro event member registers later answer same_tag answered
    obtain ⟨earlier, between, rfl⟩ := List.append_of_mem member
    have earlier_contained := contained_after earlier fun _ => List.mem_append_left _
    rw [after_append, after_cons] at answered
    have next_contained : (event.step files load
        (Registry.after files load earlier (blank outside))).SelfContained :=
      earlier_contained.step (returns event member)
    apply next_contained.answer_of_has _ _ answered
    · intro other listed
      exact returns other (by simp [listed])
    · rw [same_tag]
      exact has_step_of_registers registers
  · rintro asked other asks different before next rfl rfl
    exact (contained_after history fun _ => id).others_of_step asks different

end Calls

namespace Sample

/-- A factory that numbers what it makes. -/
def numbered : Transition Nat Nat :=
  fun next => (.ok next, next + 1)

def noPackages : PackageLoader (Watched Nat Nat) Nat :=
  fun _ _ => pure none

/-- A look-up that reads, is interrupted by another one of the same type, and then searches. -/
def interrupted : List (Event Nat Nat Nat) :=
  [.registerFactory "a" 0 numbered, .registerFactory "b" 1 numbered, .read "a", .resolve "a",
    .search "a"]

theorem returns_interrupted : ∀ event ∈ interrupted, event.Returns := by
  have returns_numbered : numbered.Returns := fun next => ⟨next, next + 1, rfl⟩
  simp [interrupted, Event.Returns, returns_numbered]

end Sample

theorem lookups_of_history_interrupted :
    (∀ event ∈ Sample.interrupted, event.Returns) ∧
    (after {} Sample.noPackages Sample.interrupted (blank 0)).outside.calls.count 0 ≤ 1 ∧
    (∀ answer,
      (Event.resolve "a").answer? {} Sample.noPackages
        (after {} Sample.noPackages Sample.interrupted (blank 0)) = some answer →
      answer = .ok (some 0)) ∧
    (Event.resolve "a").answer? {} Sample.noPackages
      (after {} Sample.noPackages Sample.interrupted (blank 0)) = some (.ok (some 0)) ∧
    (∃ handler, (Except.ok (some 1) : Except Fault (Option Nat)) = .ok (some handler)) ∧
    ((Event.search "a").step {} Sample.noPackages
      (after {} Sample.noPackages Sample.interrupted (blank 0))).has "b" =
        (after {} Sample.noPackages Sample.interrupted (blank 0)).has "b" := by
  obtain ⟨called, settled, known, apart⟩ :=
    lookups_of_history {} Sample.noPackages 0 Sample.interrupted Sample.returns_interrupted
  refine ⟨Sample.returns_interrupted, called 0, ?_, rfl, ?_, ?_⟩
  · intro answer answered
    exact settled (Sample.interrupted.take 3) (.resolve "a") [.search "a"] 0 (.resolve "a") answer
      rfl rfl (by simp) rfl answered
  · exact known (.registerFactory "b" 1 Sample.numbered) (by simp [Sample.interrupted]) trivial
      (.resolve "b") _ rfl rfl
  · exact (apart (.search "a") "b" id (by decide) _ _ rfl rfl).1

end Registry
end RequestFlow
