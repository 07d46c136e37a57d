import Mathlib.Data.Set.Basic
import RequestFlow.Proofs.Engine.Built
import RequestFlow.Proofs.Engine.Ending
import RequestFlow.Proofs.Registry.Source
import RequestFlow.Proofs.Walk.Alike

/-!
# Requests do not influence each other

What stays with an engine after a request is its registry and the trace, and the trace is cleared
before the next one. Registries with handlers from one steady source answer alike, and handlers that
keep nothing cannot tell such registries apart. So the response to a request is that of an engine
which has served no other.
-/

namespace RequestFlow

open Transition

/-- What a handler does depends on the world outside through the walks it starts alone: worlds that
these walks do not tell apart, it does not tell apart either. -/
def Nodes.Stateless {ω : Type} (action : Action ω) : Prop :=
  ∀ (related : ω → ω → Prop) (call : Call) (first second : Subflow ω),
    (∀ node output, Alike (Session.Related related) (first node output) (second node output)) →
      Alike (Session.Related related) (action call first) (action call second)

/-- Built-in nodes keep nothing. -/
theorem Builtin.stateless
    {ω : Type}
    (support : Rules.Support)
    (builtin : Builtin) :
    Nodes.Stateless (builtin.perform support : Nodes.Action ω) :=
  fun _ call _ _ walks => builtin.alike_perform support (walks call.node)

variable {ν η : Type}

/-- What the handlers on a host do, as the answers of a source. -/
def Host.source
    (host : Host ν η)
    (support : Rules.Support)
    (manifest : Option Location)
    (outside : ν) : Source ν η (Nodes.Action (Registry ν η)) where
  builtin builtin := builtin.perform support
  files := host.files
  load := host.load
  view := host.perform
  manifest := manifest
  outside := outside

/-- The packages that a manifest lists are loaded, and their handlers made, the same in every state;
and these handlers keep nothing. -/
structure Host.Dependable
    (host : Host ν η)
    (support : Rules.Support)
    (manifest : Option Location)
    (outside : ν) : Prop where
  /-- What a package offers does not depend on the state outside. -/
  steady : (host.source support manifest outside).Steady
  /-- No action from a package that can be listed depends on that state or changes it. -/
  stateless : ∀ location package name action,
    (host.source support manifest outside).Lists location →
    (host.source support manifest outside).package? location outside = some package →
    (host.source support manifest outside).made? package name outside = some action →
      Nodes.Stateless action

/-- Without a manifest there are no packages to depend on. -/
theorem Host.dependable_none
    (host : Host ν η)
    (support : Rules.Support)
    (outside : ν) :
    host.Dependable support none outside where
  steady := by
    refine ⟨?_, ?_⟩
    · rintro location ⟨_, _, _, ⟨⟩, _⟩
    · rintro location ⟨_, _, _, ⟨⟩, _⟩
  stateless := by
    rintro location package name action ⟨_, _, _, ⟨⟩, _⟩

section Source

variable {host : Host ν η} {support : Rules.Support} {manifest : Option Location}
  {outside : ν}

/-- Whatever answers for a type keeps nothing. -/
theorem Host.Dependable.stateless_answer
    (dependable : host.Dependable support manifest outside)
    {typeTag : String}
    {action : Nodes.Action (Registry ν η)}
    (answers : (host.source support manifest outside).answer typeTag = .ok (some action)) :
    Nodes.Stateless action := by
  rw [Source.answer] at answers
  cases typed : Builtin.ofType? typeTag with
  | none =>
      rw [typed] at answers
      obtain ⟨location, package, name, listed, loaded, made⟩ :=
        Source.exists_made?_of_discovered answers
      exact dependable.stateless location package name action listed loaded made
  | some builtin =>
      rw [typed] at answers
      cases answers
      exact builtin.stateless support

/-- Both registries have their handlers from one source. -/
def BothFollow
    (source : Source ν η (Nodes.Action (Registry ν η)))
    (registry other : Registry ν η) : Prop :=
  registry.Follows source ∧ other.Follows source

/-- Two look-ups of which the same is seen find handlers that act alike, if what is seen keeps
nothing. -/
theorem Host.fit_of_same_view
    {ids : Set String}
    {related : Registry ν η → Registry ν η → Prop}
    {found other : Except Fault (Option η)}
    {seen : Except Fault (Option (Nodes.Action (Registry ν η)))}
    (first : found.map (Option.map host.perform) = seen)
    (second : other.map (Option.map host.perform) = seen)
    (stateless : ∀ action, seen = .ok (some action) → Nodes.Stateless action)
    (everywhere : ∀ node : Node, node.LeadsInto ids) :
    Fit (Option.Rel (host.handlers.ActAlike ids related)) found other := by
  subst first
  rcases found with fault | _ | handler <;> rcases other with otherFault | _ | otherHandler <;>
    simp only [Except.map, Option.map, reduceCtorEq, Except.ok.injEq, Except.error.injEq,
      Option.some.injEq] at second
  · subst second
    exact .error _
  · exact .ok .none
  · refine .ok (.some fun call walks otherWalks _ alike => ?_)
    have same : host.handlers.perform otherHandler = host.handlers.perform handler := second
    rw [same]
    exact stateless _ rfl _ call walks otherWalks fun node => alike node (everywhere node)

/-- The handlers of a dependable host do not tell registries apart that follow its source. -/
theorem Host.Dependable.respects
    (dependable : host.Dependable support manifest outside) :
    host.handlers.Respects Set.univ
      (BothFollow (host.source support manifest outside)) := by
  rintro typeTag registry other ⟨follows, otherFollows⟩
  obtain ⟨answers, kept⟩ := follows.resolve dependable.steady typeTag
  obtain ⟨otherAnswers, otherKept⟩ := otherFollows.resolve dependable.steady typeTag
  refine ⟨Host.fit_of_same_view answers otherAnswers ?_ ?_, kept, otherKept⟩
  · intro action answer
    exact dependable.stateless_answer answer
  · intro node output target _
    exact Set.mem_univ target

end Source

namespace Engine

variable {α : Type} {related : Registry ν η → Registry ν η → Prop} {base : Engine ν η}

/-- An engine that has the settings of another, and for each name its controller. -/
structure SameSetup (engine base : Engine ν η) : Prop where
  /-- The settings are the same. -/
  settings : engine.settings = base.settings
  /-- Every name has the same graph. -/
  controllers : ∀ name, engine.controllers.get? name = base.controllers.get? name
  /-- Every name has the same walker. -/
  walkers : ∀ name, engine.walkers.get? name = base.walkers.get? name

/-- Two engines that have the same setup as a third, and related registries. -/
structure Twins
    (related : Registry ν η → Registry ν η → Prop)
    (base engine other : Engine ν η) : Prop where
  /-- The first has the setup. -/
  first : engine.SameSetup base
  /-- The second has the setup. -/
  second : other.SameSetup base
  /-- They have the same trace. -/
  trace : engine.trace = other.trace
  /-- Their registries are related. -/
  registries : related engine.registry other.registry

/-- Changing only trace and registry keeps the setup. -/
theorem SameSetup.with_run
    {engine : Engine ν η}
    (setup : engine.SameSetup base)
    (trace : Trace)
    (registry : Registry ν η) :
    SameSetup { engine with trace, registry } base :=
  ⟨setup.settings, setup.controllers, setup.walkers⟩

theorem alike_clearTrace : Alike (Twins related base) clearTrace clearTrace :=
  fun engine other twins => ⟨rfl, twins.first.with_run [] engine.registry,
    twins.second.with_run [] other.registry, rfl, twins.registries⟩

theorem alike_traceField
    (name : String)
    (value : Value) :
    Alike (Twins related base) (traceField name value) (traceField name value) :=
  fun engine other twins => ⟨rfl, twins.first.with_run _ engine.registry,
    twins.second.with_run _ other.registry, congrArg (Assoc.put name value) twins.trace,
    twins.registries⟩

/-- Reading what the setup decides gives the same result. -/
theorem alike_read_setup
    {part : Engine ν η → α}
    (decided : ∀ engine : Engine ν η, engine.SameSetup base → part engine = part base) :
    Alike (Twins related base) (read part) (read part) :=
  Transition.alike_read fun engine other twins =>
    (decided engine twins.first).trans (decided other twins.second).symm

theorem alike_graphOf (controller : String) :
    Alike (Twins related base) (graphOf controller) (graphOf controller) := by
  refine (alike_read_setup fun _ setup => setup.controllers controller).bind fun found => ?_
  cases found with
  | none => exact alike_fail _
  | some graph => exact alike_pure graph

/-- Sessions that cannot be told apart give the same, and leave related registries behind. -/
theorem alike_inSession
    (request : Request)
    {first second : Transition (Session (Registry ν η)) α}
    (alike : Alike (Session.Related related) first second) :
    Alike (Twins related base) (inSession request first) (inSession request second) := by
  intro engine other twins
  obtain ⟨same, kept⟩ := alike { request, trace := engine.trace, world := engine.registry }
    { request, trace := engine.trace, world := other.registry } (.outside _ twins.registries)
  simp only [inSession_apply, ← twins.trace]
  rcases ended : first { request, trace := engine.trace, world := engine.registry } with
    ⟨result, session⟩
  rcases otherEnded : second { request, trace := engine.trace, world := other.registry } with
    ⟨otherResult, otherSession⟩
  rw [ended, otherEnded] at same kept
  obtain rfl : result = otherResult := same
  obtain ⟨world, worlds⟩ := kept
  exact ⟨rfl, twins.first.with_run session.trace session.world,
    twins.second.with_run session.trace world, rfl, worlds⟩

/-- What is told of a fault is decided by the setup. -/
theorem SameSetup.faultResponse_eq
    {engine : Engine ν η}
    (setup : engine.SameSetup base)
    (fault : Fault) :
    faultResponse fault engine = faultResponse fault base := by
  have told : diagnostics engine.controllers fault = diagnostics base.controllers fault := by
    unfold diagnostics
    split
    · rw [setup.controllers]
    · rfl
  unfold faultResponse
  rw [setup.settings, told]

/-- The response to a request that was run is decided by the setup. -/
theorem SameSetup.runResponse_eq
    {engine : Engine ν η}
    (setup : engine.SameSetup base)
    (run : Run) :
    runResponse run engine = runResponse run base := by
  unfold runResponse
  rw [setup.settings]

section Handle

variable {host : Host ν η}
  (respects : host.handlers.Respects Set.univ related)

include respects

/-- Running a request does not tell related registries apart. -/
theorem alike_execute (incoming : Incoming) :
    Alike (Twins related base) (execute host incoming) (execute host incoming) := by
  refine alike_clearTrace.bind fun _ => ?_
  refine (alike_traceField _ _).bind fun _ => (alike_traceField _ _).bind fun _ => ?_
  refine (alike_graphOf incoming.controller).bind fun graph => ?_
  cases graph.matchEndpoint? incoming.method incoming.path with
  | none => exact alike_fail _
  | some found =>
      refine (alike_traceField _ _).bind fun _ => ?_
      cases graph.startNode? found.endpoint with
      | none => exact alike_fail _
      | some start =>
          refine (alike_read_setup fun _ setup => setup.walkers _).bind fun walker => ?_
          cases walker with
          | none => exact alike_fail _
          | some walker =>
              have agree : walker.graph.AgreeOn Set.univ walker.graph :=
                ⟨fun _ _ => rfl, fun _ _ _ _ _ target _ => Set.mem_univ target⟩
              have walked := Walk.alike_run agree respects walker.limit 0 (Set.mem_univ start)
              exact (alike_inSession _ walked).bind fun _ => alike_pure _

/-- Responding to a request does not tell related registries apart. -/
theorem alike_handle (incoming : Incoming) :
    Alike (Twins related base) (handle host incoming) (handle host incoming) := by
  refine (alike_execute respects incoming).attempt.bind fun ended => ?_
  refine alike_clearTrace.bind fun _ => ?_
  cases ended with
  | ok run => exact alike_read_setup fun _ setup => setup.runResponse_eq run
  | error fault =>
      dsimp only
      split
      · exact alike_read_setup fun _ setup => setup.faultResponse_eq fault
      · exact alike_fail fault

end Handle

/-- The engine after it has responded to some requests, one after another. -/
def after
    (host : Host ν η)
    (earlier : List Incoming)
    (engine : Engine ν η) : Engine ν η :=
  earlier.foldl (fun engine incoming => (handle host incoming engine).2) engine

/-- An engine that has served requests has the setup it had, and its registry is still related to
itself. -/
theorem twins_after
    {host : Host ν η}
    (respects : host.handlers.Respects Set.univ related)
    {engine : Engine ν η}
    (twins : Twins related base engine engine)
    (earlier : List Incoming) :
    Twins related base (after host earlier engine) (after host earlier engine) := by
  induction earlier generalizing engine with
  | nil => exact twins
  | cons incoming earlier inductionHypothesis =>
      exact inductionHypothesis (alike_handle respects incoming engine engine twins).2

/-- An engine that was built follows the source of its host. -/
theorem Assembled.follows
    {embed : Builtin → η}
    {settings : Settings}
    {admitted : Graph → Prop}
    {engine : Engine ν η}
    (assembled : engine.Assembled embed settings admitted)
    {host : Host ν η}
    {support : Rules.Support}
    (performs : ∀ builtin, host.perform (embed builtin) = builtin.perform support)
    {manifest : Option Location}
    (located : manifestLocation settings.manifest = .ok manifest)
    (outside : ν) :
    engine.registry.Follows (host.source support manifest outside) := by
  obtain ⟨place, start, placed, registry_eq⟩ := assembled.registry_eq
  obtain rfl : place = manifest := Except.ok.inj (placed.symm.trans located)
  rw [registry_eq]
  exact Registry.follows_withBuiltins performs start

/-- Engines that were built with the same settings and the same controllers have the same setup. -/
theorem Assembled.sameSetup
    {embed : Builtin → η}
    {settings : Settings}
    {admitted : Graph → Prop}
    {engine fresh : Engine ν η}
    (assembled : engine.Assembled embed settings admitted)
    (freshAssembled : fresh.Assembled embed settings admitted)
    (same : ∀ name, engine.controllers.get? name = fresh.controllers.get? name) :
    engine.SameSetup fresh where
  settings := assembled.settings_eq.trans freshAssembled.settings_eq.symm
  controllers := same
  walkers name := by
    have found (controllers : Assoc String Graph) := Assoc.get?_map
      (fun graph => (⟨graph, settings.depthLimit⟩ : Walker)) name controllers
    rw [assembled.walkers_eq, freshAssembled.walkers_eq, found, found, same]

/-- The response to a request is the same whatever an engine was asked before: it is that of a
freshly built engine with the same controllers. The built-in nodes are there, and a manifest may
list packages that are loaded the same each time and whose handlers keep nothing. -/
theorem response_after_requests
    {host : Host ν η}
    {embed : Builtin → η}
    {support : Rules.Support}
    {settings : Settings}
    {admitted : Graph → Prop}
    {manifest : Option Location}
    (performs : ∀ builtin, host.perform (embed builtin) = builtin.perform support)
    (located : manifestLocation settings.manifest = .ok manifest)
    (dependable : ∀ outside, host.Dependable support manifest outside)
    {engine fresh : Engine ν η}
    (built : engine.Built embed settings admitted)
    (freshBuilt : fresh.Built embed settings admitted)
    (same : ∀ name, engine.controllers.get? name = fresh.controllers.get? name)
    (earlier : List Incoming)
    (incoming : Incoming) :
    (handle host incoming (after host earlier engine)).1 = (handle host incoming fresh).1 := by
  have respects := (dependable fresh.registry.outside).respects
  have follows := built.assembled.follows performs located fresh.registry.outside
  have freshFollows := freshBuilt.assembled.follows performs located fresh.registry.outside
  have setup := built.assembled.sameSetup freshBuilt.assembled same
  have served := twins_after respects ⟨setup, setup, rfl, follows, follows⟩ earlier
  -- The trace that earlier requests leave behind is cleared before it is read.
  have twins : Twins (BothFollow _) fresh { after host earlier engine with trace := [] }
      { fresh with trace := [] } :=
    ⟨served.first.with_run [] _, ⟨rfl, fun _ => rfl, fun _ => rfl⟩, rfl, served.registries.1,
      freshFollows⟩
  exact (alike_handle respects incoming _ _ twins).1

namespace Sample

/-- The built-in nodes, and handlers that greet, each with the number of packages that had been
loaded before its own. -/
inductive Handler
  | builtin (builtin : Builtin)
  | greeting (loaded : Nat)

/-- Greet whom the configuration names. -/
def greet : Nodes.Action (Registry Nat Handler) := fun call _ =>
  pure (.leaveWith "out" (.text ("Hello, " ++ (call.node.data.get "name").display)))

/-- A package with one class of nodes. -/
def package (loaded : Nat) : NodePackage Nat Handler where
  classes := [{ name := "NodeGreet", make := pure (.greeting loaded) }]

/-- The content of the file of the package. -/
def packageBytes : List UInt8 :=
  Text.encodeUtf8 "greetings".toList

/-- A host with a manifest and a package, which counts how often packages are loaded. -/
def host : Host Nat Handler where
  files := .ofTexts [("nodes/greet", "greetings"), ("nodes/manifest.json",
    "\x7b\"nodes\": [\x7b\"type\": \"greet\", \"file\": \"greet\"\x7d]\x7d")]
  load _ content loaded :=
    if content = packageBytes then (.ok (some (package loaded)), loaded + 1) else (.ok none, loaded)
  perform
    | .builtin builtin => builtin.perform {}
    | .greeting _ => greet

/-- The settings that name the manifest. -/
def settings : Settings where
  manifest := .text "nodes/manifest.json"

def manifest : Option Location :=
  (nonEmpty? "nodes/manifest.json").map Location.ofText

/-- A controller with a greeting that has to be discovered. -/
def greetings : Graph where
  controller := "greetings"
  endpoints := [{ id := some "hello", path := some "/hello" }]
  nodes := [
    { id := "get-hello", data := [(.text "type", .text "get")],
      outputs := [("out", some ⟨some "greet", []⟩)] },
    { id := "greet", data := [(.text "type", .text "greet"), (.text "name", .text "you")],
      outputs := [("out", some ⟨some "answer", []⟩)] },
    { id := "answer", data := [(.text "type", .text "response"),
      (.text "body", .text "{{greet.out}}")] }]

/-- The engine that a host state starts with, before anything is registered. -/
def bare (loaded : Nat) : Engine Nat Handler where
  settings := settings
  registry := (Registry.withBuiltins .builtin { outside := loaded }).withManifest manifest

/-- The engine with the greetings. -/
def engine (loaded : Nat) : Engine Nat Handler :=
  (register greetings none (bare loaded)).2

theorem built_engine (loaded : Nat) :
    (engine loaded).Built Handler.builtin settings fun _ => True :=
  .register trivial (.start (rfl : _ = Except.ok (bare loaded)))

section Package

variable {manifest : Option Location} {outside loaded state : Nat} {location : Location}
  {name : String}

/-- The package is the same but for the number that its handlers are made with. -/
theorem package?_eq :
    (host.source {} manifest outside).package? location loaded =
      if host.files.find location = .file packageBytes then some (package loaded) else none := by
  have sameFiles : (host.source {} manifest outside).files = host.files := rfl
  rw [Source.package?, sameFiles]
  cases host.files.find location with
  | file content =>
      have loads : (host.source {} manifest outside).load location content loaded =
          if content = packageBytes then (.ok (some (package loaded)), loaded + 1)
          else (.ok none, loaded) := rfl
      simp only [loads]
      by_cases greets : content = packageBytes
      · simp [greets, Except.toOption]
      · simp [greets, Except.toOption]
  | _ => simp

theorem made?_package :
    (host.source {} manifest outside).made? (package loaded) name state =
      if "NodeGreet" = name then some greet else none := by
  by_cases same : "NodeGreet" = name
  · subst same
    rfl
  · simp [Source.made?, NodePackage.maker?, package, same]

theorem eq_package_of_package?
    {found : NodePackage Nat Handler}
    (loads : (host.source {} manifest outside).package? location loaded =
      some found) :
    found = package loaded := by
  rw [package?_eq] at loads
  split at loads
  · exact (Option.some.inj loads).symm
  · cases loads

end Package

theorem dependable_host (outside : Nat) : host.Dependable {} manifest outside where
  steady :=
    { loads := fun location _ loaded other => by
        rw [package?_eq, package?_eq]
        split <;> rfl
      makes := fun location _ loaded other found otherFound loads otherLoads name state _ => by
        rw [eq_package_of_package? loads, eq_package_of_package? otherLoads, made?_package,
          made?_package] }
  stateless location found name action _ loads makes := by
    rw [eq_package_of_package? loads, made?_package] at makes
    split at makes
    · cases makes
      exact fun _ _ _ _ _ => alike_pure _
    · cases makes

/-- A request that is answered, one that no endpoint serves, and one for another controller. -/
def requests : List Incoming :=
  [{ controller := "greetings", method := "GET", path := "/hello" },
    { controller := "greetings", method := "POST", path := "/nowhere" },
    { controller := "others", method := "GET", path := "/hello" }]

end Sample

/-- After other requests, and on a host that has loaded other packages before, the greeting is
discovered as it is at first. -/
theorem response_after_requests_greetings :
    (handle Sample.host { controller := "greetings", method := "GET", path := "/hello" }
        (after Sample.host Sample.requests (Sample.engine 3))).1 =
      (handle Sample.host { controller := "greetings", method := "GET", path := "/hello" }
        (Sample.engine 0)).1 :=
  response_after_requests (fun _ => rfl) rfl Sample.dependable_host (Sample.built_engine 3)
    (Sample.built_engine 0) (fun _ => rfl) Sample.requests _

end Engine
end RequestFlow
