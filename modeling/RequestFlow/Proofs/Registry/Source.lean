import RequestFlow.Proofs.Assoc
import RequestFlow.Registry.Lookup

/-!
# What a registry answers

A registry changes as it is used: factories are used up, handlers that were made or discovered stay,
and so do packages that were loaded. If packages are the same whenever they are loaded, none of this
changes what it answers for a type: the answer is that of a source which is consulted afresh each
time. Handlers are compared by what is seen of them, since the handlers that two loads of a package
make need not be one and the same.
-/

namespace RequestFlow

/-- A sequence gives a result only after its first part does. -/
theorem exists_of_bind_eq_ok
    {α β : Type}
    {first : Except Fault α}
    {next : α → Except Fault β}
    {result : β}
    (ended : first >>= next = .ok result) :
    ∃ given, first = .ok given ∧ next given = .ok result := by
  cases first with
  | error fault => cases ended
  | ok given => exact ⟨given, rfl, ended⟩

/-- Where the handlers of a registry come from: the built-in nodes, and the packages that a manifest
lists, if there is one. Packages can be loaded and handlers made in a state of their own, and
something is seen of each handler. -/
structure Source (ν η α : Type) where
  /-- What is seen of the handler of a built-in node. -/
  builtin : Builtin → α
  /-- The files that packages are loaded from. -/
  files : FileTree
  /-- How a package is loaded from a file. -/
  load : PackageLoader ν η
  /-- What is seen of a handler. -/
  view : η → α
  /-- The manifest that lists packages. -/
  manifest : Option Location
  /-- The state that packages keep at the start. -/
  outside : ν

namespace Source

variable {ν η α : Type} (source : Source ν η α)

/-- The package in a file, when it is loaded in the given state, unless loading fails. -/
def package?
    (location : Location)
    (outside : ν) : Option (NodePackage ν η) :=
  match source.files.find location with
  | .file content => (source.load location content outside).1.toOption.join
  | _ => none

/-- What is seen of the handler of a class, when it is made in the given state, unless making it
fails. -/
def made?
    (package : NodePackage ν η)
    (name : String)
    (outside : ν) : Option α :=
  (package.maker? name).bind fun make => (make outside).1.toOption.map source.view

/-- What is seen of the handler of the class that an entry of a manifest names for a type. -/
def chosen
    (typeTag : String)
    (entry : Fields)
    (package : NodePackage ν η)
    (outside : ν) : Except Fault (Option α) := do
  let name ← Manifest.className typeTag entry
  pure (source.made? package name outside)

/-- What is seen of the handler that an entry of a manifest offers for a type. -/
def offered
    (manifest : Location)
    (typeTag : String)
    (entry : Fields) : Except Fault (Option α) := do
  let location ← Manifest.packageLocation source.files manifest entry
  if ← source.files.exists? location then
    match source.package? location source.outside with
    | none => pure none
    | some package => source.chosen typeTag entry package source.outside
  else pure none

/-- What is seen of the handler that is discovered for a type. -/
def discovered (typeTag : String) : Except Fault (Option α) :=
  match source.manifest with
  | none => pure none
  | some manifest => do
    match ← Manifest.find? source.files manifest typeTag with
    | none => pure none
    | some entry => source.offered manifest typeTag entry

/-- What is seen of the handler of a type: the built-in one, or else the one that is discovered. -/
def answer (typeTag : String) : Except Fault (Option α) :=
  match Builtin.ofType? typeTag with
  | some builtin => pure (some (source.builtin builtin))
  | none => source.discovered typeTag

/-- The manifest lists a package in the file at a location. -/
def Lists (location : Location) : Prop :=
  ∃ manifest entries entry,
    source.manifest = some manifest ∧
    Manifest.entries source.files manifest = .ok entries ∧
    entry ∈ entries ∧
    Manifest.packageLocation source.files manifest entry = .ok location

/-- The packages of the manifest do not depend on the state in which they are loaded, and what is
seen of their handlers does not depend on the state in which these are made. -/
structure Steady : Prop where
  /-- Whether the file at a listed location is a package does not depend on the state. -/
  loads : ∀ location, source.Lists location → ∀ outside other,
    (source.package? location outside).isSome = (source.package? location other).isSome
  /-- What a class of a listed package makes does not depend on the state. -/
  makes : ∀ location, source.Lists location → ∀ outside other package otherPackage,
    source.package? location outside = some package →
    source.package? location other = some otherPackage →
    ∀ name state otherState,
      source.made? package name state = source.made? otherPackage name otherState

end Source

/-- The entry that answers for a type is one of the manifest. -/
theorem Manifest.mem_of_firstFor?
    {typeTag : String}
    {entries : List Fields}
    {entry : Fields}
    (found : firstFor? typeTag entries = .ok (some entry)) :
    entry ∈ entries := by
  induction entries with
  | nil => cases found
  | cons first rest inductionHypothesis =>
      rw [firstFor?] at found
      rcases answers : answersFor typeTag first with fault | _ | _
      · rw [answers] at found
        cases found
      · rw [answers] at found
        exact List.mem_cons_of_mem _ (inductionHypothesis found)
      · rw [answers] at found
        cases found
        exact List.mem_cons_self

/-- What is discovered for a type is made in a package that the manifest lists. -/
theorem Source.exists_made?_of_discovered
    {ν η α : Type}
    {source : Source ν η α}
    {typeTag : String}
    {seen : α}
    (found : source.discovered typeTag = .ok (some seen)) :
    ∃ location package name,
      source.Lists location ∧
      source.package? location source.outside = some package ∧
      source.made? package name source.outside = some seen := by
  unfold discovered at found
  split at found
  · cases found
  · next manifest listing =>
    obtain ⟨answering, searched, found⟩ := exists_of_bind_eq_ok found
    obtain ⟨entries, listed, first⟩ := exists_of_bind_eq_ok searched
    cases answering with
    | none => cases found
    | some entry =>
        obtain ⟨location, located, found⟩ := exists_of_bind_eq_ok found
        obtain ⟨present, _, found⟩ := exists_of_bind_eq_ok found
        cases present with
        | false => cases found
        | true =>
            cases loaded : source.package? location source.outside with
            | none => simp [loaded, pure, Except.pure] at found
            | some package =>
                simp only [↓reduceIte, loaded] at found
                obtain ⟨name, _, made⟩ := exists_of_bind_eq_ok found
                exact ⟨location, package, name,
                  ⟨manifest, entries, entry, listing, listed, Manifest.mem_of_firstFor? first,
                    located⟩,
                  loaded, Except.ok.inj made⟩

namespace Registry

variable {ν η α : Type} {source : Source ν η α} {registry : Registry ν η} {typeTag : String}

/-- A registry with handlers from a source: those that are there are what the source answers, every
built-in node is there or can be made, and packages that are loaded were loaded from their files. -/
structure Follows
    (source : Source ν η α)
    (registry : Registry ν η) : Prop where
  /-- The registry discovers through the manifest of the source. -/
  manifest : registry.discovery.map (·.manifest) = source.manifest
  /-- Every handler is the one that the source answers. -/
  handler : ∀ typeTag handler, registry.handlers.get? typeTag = some handler →
    source.answer typeTag = .ok (some (source.view handler))
  /-- Every factory is that of a built-in node. -/
  factory : ∀ typeTag make, registry.factories.get? typeTag = some make →
    ∃ handler builtin, make = pure handler ∧ source.view handler = source.builtin builtin ∧
      Builtin.ofType? typeTag = some builtin
  /-- Every type of a built-in node has a handler or a factory. -/
  known : ∀ typeTag builtin, Builtin.ofType? typeTag = some builtin →
    registry.handlers.get? typeTag = none → registry.factories.get? typeTag ≠ none
  /-- Every package that has been loaded is one of the source. -/
  loaded : ∀ discovery location package, registry.discovery = some discovery →
    discovery.loaded.get? location = some package →
      ∃ outside, source.package? location outside = some package

/-- A registry of the built-in nodes that looks for others in the packages of a manifest has its
handlers from the source with that manifest. -/
theorem follows_withBuiltins
    {embed : Builtin → η}
    (shown : ∀ builtin, source.view (embed builtin) = source.builtin builtin)
    (outside : ν) :
    Follows source ((withBuiltins embed { outside := outside }).withManifest source.manifest) := by
  have ready : ∀ typeTag, (withBuiltins embed { outside := outside }).handlers.get? typeTag =
      (Builtin.ready.lookup typeTag).map embed := by
    intro typeTag
    rw [← Assoc.get?_eq_lookup, ← Assoc.get?_map embed]
    rfl
  have made : ∀ typeTag, (withBuiltins embed { outside := outside }).factories.get? typeTag =
      (Builtin.made.lookup typeTag).map fun builtin => pure (embed builtin) := by
    intro typeTag
    rw [← Assoc.get?_eq_lookup, ← Assoc.get?_map]
    rfl
  have either : ∀ typeTag, Builtin.ofType? typeTag =
      (Builtin.ready.lookup typeTag).or (Builtin.made.lookup typeTag) :=
    fun _ => List.lookup_append
  refine ⟨?_, ?_, ?_, ?_, ?_⟩
  · rw [withManifest]
    cases source.manifest <;> rfl
  · intro typeTag handler there
    rw [withManifest, ready] at there
    obtain ⟨builtin, typed, rfl⟩ := Option.map_eq_some_iff.1 there
    rw [Source.answer, either, typed, shown]
    rfl
  · intro typeTag make there
    rw [withManifest, made] at there
    obtain ⟨builtin, typed, rfl⟩ := Option.map_eq_some_iff.1 there
    refine ⟨embed builtin, builtin, rfl, shown builtin, ?_⟩
    by_cases same : typeTag = "validation"
    · subst same
      cases typed
      decide
    · have passed : (typeTag == "validation") = false := beq_eq_false_iff_ne.2 same
      simp [Builtin.made, List.lookup_cons, passed] at typed
  · intro typeTag builtin typed absent unmade
    rw [withManifest, ready, Option.map_eq_none_iff] at absent
    rw [withManifest, made, Option.map_eq_none_iff] at unmade
    rw [either, absent, unmade] at typed
    cases typed
  · intro discovery location package there kept
    rw [withManifest] at there
    obtain ⟨manifest, _, rfl⟩ := Option.map_eq_some_iff.1 there
    cases kept

/-- Only the handlers, the factories and the discovery of a registry matter. -/
theorem Follows.with_outside
    (follows : registry.Follows source)
    (outside : ν) :
    Follows source { registry with outside } where
  manifest := follows.manifest
  handler := follows.handler
  factory := follows.factory
  known := follows.known
  loaded := follows.loaded

/-- A handler that is what the source answers can be added. -/
theorem Follows.register
    (follows : registry.Follows source)
    {handler : η}
    (answers : source.answer typeTag = .ok (some (source.view handler))) :
    Follows source (register typeTag handler registry) where
  manifest := follows.manifest
  factory := follows.factory
  loaded := follows.loaded
  handler other found there := by
    by_cases same : other = typeTag
    · subst same
      rw [Registry.register, Assoc.get?_put_self] at there
      cases there
      exact answers
    · rw [Registry.register, Assoc.get?_put_of_ne same] at there
      exact follows.handler other found there
  known other builtin typed absent := by
    by_cases same : other = typeTag
    · subst same
      rw [Registry.register, Assoc.get?_put_self] at absent
      cases absent
    · rw [Registry.register, Assoc.get?_put_of_ne same] at absent
      exact follows.known other builtin typed absent

/-- A factory can be used up once its handler is there. -/
theorem Follows.use
    (follows : registry.Follows source)
    {handler : η}
    (made : registry.factories.get? typeTag = some (pure handler)) :
    Follows source
        { registry with
          factories := registry.factories.erase typeTag
          handlers := registry.handlers.put typeTag handler } ∧
      source.answer typeTag = .ok (some (source.view handler)) := by
  have answers : source.answer typeTag = .ok (some (source.view handler)) := by
    obtain ⟨other, builtin, same, seen, typed⟩ := follows.factory typeTag _ made
    obtain rfl : handler = other :=
      Except.ok.inj (congrArg (fun make => (make registry.outside).1) same)
    simp [Source.answer, typed, seen, pure, Except.pure]
  have added := follows.register answers
  refine ⟨⟨added.manifest, added.handler, ?_, ?_, added.loaded⟩, answers⟩
  · intro other make there
    by_cases same : other = typeTag
    · subst same
      rw [Assoc.get?_erase_self] at there
      cases there
    · rw [Assoc.get?_erase_of_ne same] at there
      exact follows.factory other make there
  · intro other builtin typed absent
    have different : other ≠ typeTag := by
      rintro rfl
      rw [Assoc.get?_put_self] at absent
      cases absent
    rw [Assoc.get?_erase_of_ne different]
    exact added.known other builtin typed absent

/-- A package that was loaded from its file can be kept. -/
theorem Follows.remember
    (follows : registry.Follows source)
    {location : Location}
    {package : NodePackage ν η}
    {outside : ν}
    (found : source.package? location outside = some package) :
    Follows source (remember location package registry) where
  manifest := by
    rw [← follows.manifest, Registry.remember]
    cases registry.discovery <;> rfl
  handler := follows.handler
  factory := follows.factory
  known := follows.known
  loaded discovery place other there kept := by
    cases discovery_eq : registry.discovery with
    | none => simp [Registry.remember, discovery_eq] at there
    | some before =>
        obtain rfl : { before with loaded := before.loaded.put location package } = discovery := by
          simpa [Registry.remember, discovery_eq] using there
        by_cases same : place = location
        · subst same
          rw [Assoc.get?_put_self] at kept
          cases kept
          exact ⟨outside, found⟩
        · rw [Assoc.get?_put_of_ne same] at kept
          exact follows.loaded before place other discovery_eq kept

/-! ## Looking up -/

/-- A handler that is there or can be made is what the source answers, and only a type that is no
built-in one has none. -/
theorem Follows.provide?
    (follows : registry.Follows source)
    (typeTag : String) :
    ∃ found after,
      provide? typeTag registry = (.ok found, after) ∧
      after.Follows source ∧
      (∀ handler, found = some handler →
        source.answer typeTag = .ok (some (source.view handler))) ∧
      (found = none →
        registry.handlers.get? typeTag = none ∧ Builtin.ofType? typeTag = none) := by
  cases there : registry.handlers.get? typeTag with
  | some handler =>
      refine ⟨some handler, registry, ?_, follows, ?_, nofun⟩
      · simp [Registry.provide?, ready?, Transition.bind_apply, there]
      · rintro _ ⟨⟩
        exact follows.handler typeTag handler there
  | none =>
      cases made : registry.factories.get? typeTag with
      | some make =>
          obtain ⟨handler, builtin, rfl, -, -⟩ := follows.factory typeTag make made
          obtain ⟨used, answers⟩ := follows.use made
          refine ⟨some handler, _, ?_, used, ?_, nofun⟩
          · simp [Registry.provide?, make?, ready?, Transition.bind_apply, there, made,
              outsideStep, Registry.register]
          · rintro _ ⟨⟩
            exact answers
      | none =>
          refine ⟨none, registry, ?_, follows, nofun, fun _ => ⟨rfl, ?_⟩⟩
          · simp [Registry.provide?, make?, ready?, Transition.bind_apply, there, made]
          · cases typed : Builtin.ofType? typeTag with
            | none => rfl
            | some builtin => exact absurd made (follows.known typeTag builtin typed there)

/-- The package in a file is one that was loaded from the file in some state. -/
theorem Follows.package?
    (follows : registry.Follows source)
    (location : Location) :
    ∃ found after outside,
      package? source.files source.load location registry = (.ok found, after) ∧
      after.Follows source ∧
      source.package? location outside = found := by
  unfold Registry.package?
  rw [Transition.bind_apply, Transition.read_apply]
  cases kept : registry.discovery.bind (·.loaded.get? location) with
  | some package =>
      obtain ⟨discovery, listing, there⟩ := Option.bind_eq_some_iff.1 kept
      obtain ⟨outside, found⟩ := follows.loaded discovery location package listing there
      exact ⟨some package, registry, outside, rfl, follows, found⟩
  | none =>
      cases finding : source.files.find location with
      | file content =>
          have later := follows.with_outside (source.load location content registry.outside).2
          have loading : loadPackage source.files source.load location registry =
              ((source.load location content registry.outside).1,
                { registry with
                  outside := (source.load location content registry.outside).2 }) := by
            simp [loadPackage, finding, outsideStep]
          have seen : source.package? location registry.outside =
              (source.load location content registry.outside).1.toOption.join := by
            simp [Source.package?, finding]
          simp only [Transition.bind_apply, Transition.attempt_apply, loading]
          rcases loaded : (source.load location content registry.outside).1 with fault | _ | package
          · refine ⟨none, _, registry.outside, rfl, later, ?_⟩
            rw [seen, loaded]
            rfl
          · refine ⟨none, _, registry.outside, rfl, later, ?_⟩
            rw [seen, loaded]
            rfl
          · have found : source.package? location registry.outside = some package := by
              rw [seen, loaded]
              rfl
            exact ⟨some package, _, registry.outside, rfl, later.remember found, found⟩
      | directory | missing | throughFile | tooLong | unspeakable =>
          refine ⟨none, registry, registry.outside, ?_, follows, ?_⟩
          · simp [Transition.bind_apply, loadPackage, finding]
          · simp [Source.package?, finding]

/-- How the discovery of a type ends: with whether the source has an answer, which the registry then
has as well. -/
structure Settles
    (source : Source ν η α)
    (typeTag : String)
    (ended : Except Fault Bool × Registry ν η) : Prop where
  /-- The type is found exactly if the source answers it, and with its fault. -/
  result : ended.1 = (source.answer typeTag).map Option.isSome
  /-- The registry follows the source still. -/
  follows : ended.2.Follows source
  /-- A type that is found has its handler in the registry. -/
  ready : ended.1 = .ok true → ended.2.handlers.get? typeTag ≠ none

theorem Follows.settles_failed
    (follows : registry.Follows source)
    {fault : Fault}
    (failed : source.answer typeTag = .error fault) :
    Settles source typeTag (.error fault, registry) where
  result := by rw [failed]; rfl
  follows := follows
  ready := nofun

theorem Follows.settles_nothing
    (follows : registry.Follows source)
    (nothing : source.answer typeTag = .ok none) :
    Settles source typeTag (.ok false, registry) where
  result := by rw [nothing]; rfl
  follows := follows
  ready := nofun

theorem Follows.settles_taken
    (follows : registry.Follows source)
    {handler : η}
    (taken : source.answer typeTag = .ok (some (source.view handler))) :
    Settles source typeTag (.ok true, Registry.register typeTag handler registry) where
  result := by rw [taken]; rfl
  follows := follows.register taken
  ready _ := by simp [Registry.register, Assoc.get?_put_self]

/-- A handler is taken on if making it does not fail. -/
theorem Follows.settles_registerMade
    (follows : registry.Follows source)
    {make : Transition ν η}
    (answers : source.answer typeTag =
      .ok ((make registry.outside).1.toOption.map source.view)) :
    Settles source typeTag (registerMade typeTag make registry) := by
  rcases made : make registry.outside with ⟨fault | handler, outside⟩
  · have ended : registerMade typeTag make registry =
        (.ok false, { registry with outside }) := by
      simp [registerMade, Transition.bind_apply, outsideStep, made]
    rw [made] at answers
    rw [ended]
    exact (follows.with_outside outside).settles_nothing answers
  · have ended : registerMade typeTag make registry =
        (.ok true, Registry.register typeTag handler { registry with outside }) := by
      simp [registerMade, Transition.bind_apply, outsideStep, made]
    rw [made] at answers
    rw [ended]
    exact (follows.with_outside outside).settles_taken answers

/-- The handler of the class that an entry names in a package is taken on, if there is one. -/
theorem Follows.settles_chosen
    (follows : registry.Follows source)
    {entry : Fields}
    {package : NodePackage ν η}
    (answers : source.answer typeTag = source.chosen typeTag entry package registry.outside) :
    Settles source typeTag ((do
      let name ← .ofExcept (Manifest.className typeTag entry)
      match package.maker? name with
      | none => pure false
      | some make => registerMade typeTag make : Transition (Registry ν η) Bool) registry) := by
  rw [Source.chosen] at answers
  rw [Transition.bind_apply, Transition.ofExcept_apply]
  rcases named : Manifest.className typeTag entry with fault | name
  · rw [named] at answers
    exact follows.settles_failed answers
  · rw [named] at answers
    dsimp only
    cases offered : package.maker? name with
    | none =>
        refine follows.settles_nothing (answers.trans ?_)
        simp [Source.made?, offered, bind, Except.bind, pure, Except.pure]
    | some make =>
        refine follows.settles_registerMade (answers.trans ?_)
        simp [Source.made?, offered, bind, Except.bind, pure, Except.pure]

/-- What is seen of a handler depends neither on when its package is loaded nor on when it is made.
-/
theorem chosen_eq_of_steady
    (steady : source.Steady)
    {location : Location}
    (listed : source.Lists location)
    {outside other : ν}
    {package otherPackage : NodePackage ν η}
    (found : source.package? location outside = some package)
    (otherFound : source.package? location other = some otherPackage)
    (entry : Fields)
    (state otherState : ν) :
    source.chosen typeTag entry package state =
      source.chosen typeTag entry otherPackage otherState := by
  unfold Source.chosen
  congr 1
  funext name
  rw [steady.makes location listed outside other package otherPackage found otherFound]

/-- What an entry of the manifest offers for a type that is no built-in one is taken on. -/
theorem Follows.settles_adopt
    (follows : registry.Follows source)
    (steady : source.Steady)
    {manifest : Location}
    {entry : Fields}
    (listed : ∀ location, Manifest.packageLocation source.files manifest entry = .ok location →
      source.Lists location)
    (answers : source.answer typeTag = source.offered manifest typeTag entry) :
    Settles source typeTag (adopt source.files source.load manifest typeTag entry registry) := by
  rw [Source.offered] at answers
  rw [adopt, Transition.bind_apply, Transition.ofExcept_apply]
  rcases located : Manifest.packageLocation source.files manifest entry with fault | location
  · rw [located] at answers
    exact follows.settles_failed answers
  rw [located] at answers
  change source.answer typeTag = (do if ← source.files.exists? location then _ else _) at answers
  simp only [Transition.bind_apply, Transition.ofExcept_apply]
  rcases there : source.files.exists? location with fault | _ | _
  · rw [there] at answers
    exact follows.settles_failed answers
  · rw [there] at answers
    exact follows.settles_nothing answers
  rw [there] at answers
  change source.answer typeTag = match source.package? location source.outside with
    | none => pure none
    | some package => source.chosen typeTag entry package source.outside at answers
  -- The registry may have the package from another state than the source loads it in.
  obtain ⟨found, after, outside, loading, later, seen⟩ := follows.package? location
  have present := steady.loads location (listed location located) source.outside outside
  simp only [↓reduceIte, Transition.bind_apply, loading]
  cases found with
  | none =>
      rw [seen, Option.isSome_none, Option.isSome_eq_false_iff,
        Option.isNone_iff_eq_none] at present
      rw [present] at answers
      exact later.settles_nothing answers
  | some package =>
      rw [seen, Option.isSome_some] at present
      obtain ⟨first, firstFound⟩ := Option.isSome_iff_exists.1 present
      rw [firstFound] at answers
      exact later.settles_chosen (answers.trans
        (chosen_eq_of_steady steady (listed location located) firstFound seen entry _ _))

/-- Discovery takes on what the source answers for a type that is no built-in one. -/
theorem Follows.settles_discover
    (follows : registry.Follows source)
    (steady : source.Steady)
    (foreign : Builtin.ofType? typeTag = none) :
    Settles source typeTag (discover source.files source.load typeTag registry) := by
  have answers : source.answer typeTag = source.discovered typeTag := by
    rw [Source.answer, foreign]
  have listing := follows.manifest
  rw [Source.discovered, ← listing] at answers
  rw [discover, Transition.bind_apply, Transition.read_apply]
  cases looking : registry.discovery with
  | none =>
      rw [looking] at answers
      exact follows.settles_nothing answers
  | some discovery =>
      rw [looking] at answers listing
      change source.answer typeTag = (do
        match ← Manifest.find? source.files discovery.manifest typeTag with
        | none => pure none
        | some entry => source.offered discovery.manifest typeTag entry) at answers
      simp only [Transition.bind_apply, Transition.ofExcept_apply]
      rcases found : Manifest.find? source.files discovery.manifest typeTag with fault | _ | entry
      · rw [found] at answers
        exact follows.settles_failed answers
      · rw [found] at answers
        exact follows.settles_nothing answers
      · rw [found] at answers
        refine follows.settles_adopt steady (fun location located => ?_) answers
        rw [Manifest.find?] at found
        rcases listed : Manifest.entries source.files discovery.manifest with fault | entries
        · rw [listed] at found
          cases found
        · rw [listed] at found
          exact ⟨discovery.manifest, entries, entry, listing.symm, listed,
            Manifest.mem_of_firstFor? found, located⟩

/-- A registry with handlers from a steady source answers for each type as the source does, and goes
on doing so. -/
theorem Follows.resolve
    (follows : registry.Follows source)
    (steady : source.Steady)
    (typeTag : String) :
    (resolve source.files source.load typeTag registry).1.map (Option.map source.view) =
        source.answer typeTag ∧
      (resolve source.files source.load typeTag registry).2.Follows source := by
  rw [Registry.resolve, Transition.bind_apply, Transition.read_apply]
  cases there : ready? typeTag registry with
  | some handler => exact ⟨(follows.handler typeTag handler there).symm, follows⟩
  | none =>
      obtain ⟨found, after, provided, later, answers, foreign⟩ := follows.provide? typeTag
      simp only [search, Transition.bind_apply, provided]
      cases found with
      | some handler => exact ⟨(answers handler rfl).symm, later⟩
      | none =>
          have settles := later.settles_discover steady (foreign rfl).2
          simp only [Transition.bind_apply]
          rcases ended : discover source.files source.load typeTag after with ⟨result, last⟩
          rw [ended] at settles
          have same : result = (source.answer typeTag).map Option.isSome := settles.result
          rcases answer : source.answer typeTag with fault | _ | seen
          · obtain rfl : result = .error fault := by rw [same, answer]; rfl
            exact ⟨rfl, settles.follows⟩
          · obtain rfl : result = .ok false := by rw [same, answer]; rfl
            exact ⟨rfl, settles.follows⟩
          · obtain rfl : result = .ok true := by rw [same, answer]; rfl
            -- What was discovered is registered, so the second look-up finds it.
            obtain ⟨again, final, providedNow, kept, answersNow, missing⟩ :=
              settles.follows.provide? typeTag
            cases again with
            | none => exact absurd (missing rfl).1 (settles.ready rfl)
            | some handler =>
                change (Registry.provide? typeTag last).1.map _ = _ ∧
                  (Registry.provide? typeTag last).2.Follows source
                rw [providedNow]
                exact ⟨(answersNow handler rfl).symm.trans answer, kept⟩

end Registry
end RequestFlow
