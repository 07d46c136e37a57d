import RequestFlow.Proofs.Engine.Built
import RequestFlow.Proofs.Engine.Ending
import RequestFlow.Proofs.Flow.Ensures

/-!
# The tables of an engine

An engine lists its controllers twice, with their graphs and with their walkers. Both lists change
in one way: a graph that has a name is installed while the engine is not sealed. So they list the
same names whatever the engine was asked, a registration that fails changes neither of them, and no
request does.
-/

namespace RequestFlow
namespace Engine

/-! ## What an engine can be asked -/

/-- One controller to be registered: a graph, a document, or the document that a file holds, with
another name or without one. -/
inductive Registration
  | ofGraph (graph : Graph) (controller : Option String)
  | ofDocument (document : Value) (controller : Option String)
  | ofFile (files : FileTree) (location : Location) (controller : Option String)

variable {ν η : Type}

namespace Registration

/-- The graph that is to be registered. -/
def graph? : Registration → Except Fault Graph
  | .ofGraph graph controller => .ok (named graph controller)
  | .ofDocument document controller => Graph.ofDocument document (controller.getD "")
  | .ofFile files location controller => files.readFlow location controller

/-- Register a controller. -/
def perform : Registration → Transition (Engine ν η) Graph
  | .ofGraph graph controller => register graph controller
  | .ofDocument document controller => registerDocument document controller
  | .ofFile files location controller => loadFile files location controller

end Registration

/-- Something that an engine is asked, with the files and the host as they are at that time. -/
inductive Use (ν η : Type)
  | register (registration : Registration)
  | loadDirectory (files : FileTree) (directory : Location)
  | sealUp
  | execute (host : Host ν η) (incoming : Incoming)
  | handle (host : Host ν η) (incoming : Incoming)

/-- The engine after it was asked, whether that has succeeded or not. -/
def Use.apply : Use ν η → Engine ν η → Engine ν η
  | .register registration, engine => (registration.perform engine).2
  | .loadDirectory files directory, engine => (Engine.loadDirectory files directory engine).2
  | .sealUp, engine => (Engine.sealUp engine).2
  | .execute host incoming, engine => (Engine.execute host incoming engine).2
  | .handle host incoming, engine => (Engine.handle host incoming engine).2

/-- The engine after it was asked one thing after another. -/
def through
    (history : List (Use ν η))
    (engine : Engine ν η) : Engine ν η :=
  history.foldl (fun engine use => use.apply engine) engine

/-! ## What becomes of a registration -/

/-- What becomes of a graph that is to be registered: a fault changes nothing, and otherwise the
graph, which has a name, has been installed in an engine that was not sealed. -/
inductive Registers
    (given : Except Fault Graph)
    (engine : Engine ν η) : Except Fault Graph × Engine ν η → Prop
  | refused (fault : Fault) : Registers given engine (.error fault, engine)
  | installed {graph : Graph} :
      given = .ok graph →
      engine.isSealed = false →
      graph.controller ≠ "" →
      Registers given engine (.ok graph, install graph engine)

section Registers

variable {engine : Engine ν η}

theorem registers_add
    (unsealed : engine.isSealed = false)
    (graph : Graph) :
    Registers (.ok graph) engine (add graph engine) := by
  rw [add_apply]
  split
  · exact .refused _
  next hasName => exact .installed rfl unsealed hasName

theorem registers_register
    (graph : Graph)
    (controller : Option String) :
    Registers (.ok (named graph controller)) engine (register graph controller engine) := by
  rw [register_apply]
  split
  · exact .refused _
  next unsealed => exact registers_add (Bool.eq_false_iff.2 unsealed) _

/-- A document is not read by an engine that is sealed. -/
theorem registers_registerDocument
    (document : Value)
    (controller : Option String) :
    Registers (Graph.ofDocument document (controller.getD "")) engine
      (registerDocument document controller engine) := by
  rw [registerDocument_apply]
  split
  · exact .refused _
  next unsealed =>
    cases Graph.ofDocument document (controller.getD "") with
    | error fault => exact .refused fault
    | ok graph => exact registers_add (Bool.eq_false_iff.2 unsealed) graph

/-- A file is read by every engine. -/
theorem registers_loadFile
    (files : FileTree)
    (location : Location)
    (controller : Option String) :
    Registers (files.readFlow location controller) engine
      (loadFile files location controller engine) := by
  rw [loadFile, Transition.bind_apply, Transition.ofExcept_apply]
  cases files.readFlow location controller with
  | error fault => exact .refused fault
  | ok graph => exact registers_register graph none

theorem Registration.registers
    (registration : Registration)
    (engine : Engine ν η) :
    Registers registration.graph? engine (registration.perform engine) := by
  cases registration with
  | ofGraph graph controller => exact registers_register graph controller
  | ofDocument document controller => exact registers_registerDocument document controller
  | ofFile files location controller => exact registers_loadFile files location controller

/-- An engine that is not sealed registers every graph that has a name. -/
theorem Registration.perform_of_unsealed
    {registration : Registration}
    {graph : Graph}
    (reads : registration.graph? = .ok graph)
    (unsealed : engine.isSealed = false)
    (hasName : graph.controller ≠ "") :
    registration.perform engine = (.ok graph, install graph engine) := by
  cases registration with
  | ofGraph given controller =>
      obtain rfl : named given controller = graph := Except.ok.inj reads
      simp [perform, register_apply, add_apply, unsealed, hasName]
  | ofDocument document controller =>
      have reads : Graph.ofDocument document (controller.getD "") = .ok graph := reads
      simp [perform, registerDocument_apply, add_apply, unsealed, reads, hasName]
  | ofFile files location controller =>
      have reads : files.readFlow location controller = .ok graph := reads
      have itself : named graph none = graph := rfl
      simp [perform, loadFile, Transition.bind_apply, reads, register_apply, itself, add_apply,
        unsealed, hasName]

/-- Registering succeeds exactly when the engine is not sealed and is given a graph with a name. -/
theorem Registration.succeeds_iff
    {registration : Registration}
    {graph : Graph} :
    (registration.perform engine).1 = .ok graph ↔
      registration.graph? = .ok graph ∧ engine.isSealed = false ∧ graph.controller ≠ "" := by
  constructor
  · intro succeeds
    have registers := registration.registers engine
    generalize registration.perform engine = ended at registers succeeds
    cases registers with
    | refused fault => cases succeeds
    | installed reads unsealed hasName =>
        cases succeeds
        exact ⟨reads, unsealed, hasName⟩
  · rintro ⟨reads, unsealed, hasName⟩
    rw [perform_of_unsealed reads unsealed hasName]

end Registers

/-! ## What every use keeps -/

/-- A property of engines that lasts: installing a graph with a name before the engine is sealed,
sealing it, and what a request leaves behind, all keep it. -/
structure Lasting (holds : Engine ν η → Prop) : Prop where
  /-- Registering a named graph keeps it while the engine is not sealed. -/
  install : ∀ engine graph, holds engine → engine.isSealed = false → graph.controller ≠ "" →
    holds (install graph engine)
  /-- Sealing keeps it. -/
  sealUp : ∀ engine, holds engine → holds { engine with isSealed := true }
  /-- Setting the trace and the registry keeps it. -/
  request : ∀ engine trace registry, holds engine → holds { engine with trace, registry }

namespace Lasting

open Transition

variable {holds : Engine ν η → Prop} (lasting : Lasting holds)

include lasting

theorem registers
    {given : Except Fault Graph}
    {engine : Engine ν η}
    {ended : Except Fault Graph × Engine ν η}
    (registers : Registers given engine ended)
    (held : holds engine) :
    holds ended.2 := by
  cases registers with
  | refused fault => exact held
  | installed _ unsealed hasName => exact lasting.install engine _ held unsealed hasName

/-- Files are loaded one after another until one of them fails. -/
theorem ensures_loadFiles
    (files : FileTree)
    (locations : List Location) :
    Ensures holds (fun _ => True) (fun _ => True) (loadFiles files locations) := by
  induction locations with
  | nil => exact ensures_pure trivial
  | cons location locations inductionHypothesis =>
      have loaded : Ensures holds (fun _ => True) (fun _ => True)
          (loadFile files location none) := by
        intro engine held
        exact ⟨.of_ok fun _ _ => trivial,
          lasting.registers (registers_loadFile files location none) held⟩
      refine loaded.bind fun graph _ => ?_
      refine inductionHypothesis.bind fun others _ => ?_
      exact ensures_pure trivial

theorem loadDirectory
    (files : FileTree)
    (directory : Location)
    {engine : Engine ν η}
    (held : holds engine) :
    holds (loadDirectory files directory engine).2 := by
  have listed : Ensures holds (fun _ => True) (fun _ => True)
      (ofExcept (files.flowFilesIn directory)) :=
    ensures_ofExcept (.of_ok fun _ _ => trivial)
  have loaded := listed.bind fun locations _ => lasting.ensures_loadFiles files locations
  exact (loaded engine held).2

/-- Whatever an engine is asked, the property lasts. -/
theorem apply
    (use : Use ν η)
    {engine : Engine ν η}
    (held : holds engine) :
    holds (use.apply engine) := by
  cases use with
  | register registration => exact lasting.registers (registration.registers engine) held
  | loadDirectory files directory => exact lasting.loadDirectory files directory held
  | sealUp => exact lasting.sealUp engine held
  | execute host incoming =>
      obtain ⟨trace, registry, state_eq⟩ := exists_execute_state host incoming engine
      rw [Use.apply, state_eq]
      exact lasting.request engine trace registry held
  | handle host incoming =>
      obtain ⟨trace, registry, state_eq⟩ := exists_execute_state host incoming engine
      rw [Use.apply, handle_state, state_eq]
      exact lasting.request engine [] registry held

theorem through
    (history : List (Use ν η))
    {engine : Engine ν η}
    (held : holds engine) :
    holds (through history engine) := by
  induction history generalizing engine with
  | nil => exact held
  | cons use history inductionHypothesis => exact inductionHypothesis (lasting.apply use held)

end Lasting

/-! ## The two tables -/

/-- Both tables list the same names, and each of them once. A name is not empty, it is that of its
graph, and this graph is what its walker walks. -/
structure Consistent (engine : Engine ν η) : Prop where
  /-- Both tables list the same names in the same order. -/
  sameNames : engine.controllers.keys = engine.walkers.keys
  /-- No name is listed twice. -/
  distinct : engine.controllers.keys.Nodup
  /-- A graph stands under its own name, and its walker walks it under the limit of the settings. -/
  paired : ∀ name graph, engine.controllers.get? name = some graph →
    name ≠ "" ∧ graph.controller = name ∧
      engine.walkers.get? name = some ⟨graph, engine.settings.depthLimit⟩

/-- Installing a graph with a name keeps the tables consistent. -/
theorem Consistent.install
    {engine : Engine ν η}
    (consistent : engine.Consistent)
    {graph : Graph}
    (hasName : graph.controller ≠ "") :
    (Engine.install graph engine).Consistent where
  sameNames := Assoc.keys_put_congr consistent.sameNames _ _ _
  distinct := Assoc.nodup_keys_put consistent.distinct _ _
  paired name found named := by
    by_cases same : name = graph.controller
    · subst same
      have put : (Engine.install graph engine).controllers.get? graph.controller = some graph :=
        Assoc.get?_put_self _ _ _
      obtain rfl : graph = found := Option.some.inj (put.symm.trans named)
      exact ⟨hasName, rfl, Assoc.get?_put_self _ _ _⟩
    · have before : engine.controllers.get? name = some found :=
        (Assoc.get?_put_of_ne same _ _).symm.trans named
      obtain ⟨nameNonempty, graphName, walks⟩ := consistent.paired name found before
      exact ⟨nameNonempty, graphName, (Assoc.get?_put_of_ne same _ _).trans walks⟩

/-- An engine that has just been started has no controllers. -/
theorem consistent_of_start
    {settings : Settings}
    {registry : Registry ν η}
    {fresh : Engine ν η}
    (started : start settings registry = .ok fresh) :
    fresh.Consistent := by
  obtain ⟨manifest, -, rfl⟩ := exists_of_start started
  exact ⟨rfl, .nil, nofun⟩

theorem lasting_consistent : Lasting (Consistent (ν := ν) (η := η)) where
  install _ _ consistent _ hasName := consistent.install hasName
  sealUp _ consistent := ⟨consistent.sameNames, consistent.distinct, consistent.paired⟩
  request _ _ _ consistent := ⟨consistent.sameNames, consistent.distinct, consistent.paired⟩

/-- Two engines list the same controllers with the same graphs and walkers. -/
structure SameTables (engine other : Engine ν η) : Prop where
  /-- The graphs are the same. -/
  controllers : engine.controllers = other.controllers
  /-- The walkers are the same. -/
  walkers : engine.walkers = other.walkers

/-- A sealed engine stays sealed and keeps its tables. -/
theorem lasting_sealed (engine : Engine ν η) :
    Lasting fun reached : Engine ν η => reached.isSealed = true ∧ SameTables reached engine where
  install reached _ held unsealed _ := by
    rw [held.1] at unsealed
    cases unsealed
  sealUp _ held := ⟨rfl, held.2.controllers, held.2.walkers⟩
  request _ _ _ held := ⟨held.1, held.2.controllers, held.2.walkers⟩

/-- After an engine was asked to be sealed, it is sealed. -/
theorem isSealed_through
    {history : List (Use ν η)}
    (asked : .sealUp ∈ history)
    (engine : Engine ν η) :
    (through history engine).isSealed = true := by
  obtain ⟨before, later, rfl⟩ := List.append_of_mem asked
  have sealed := lasting_sealed ((Use.sealUp : Use ν η).apply (through before engine))
  rw [through, List.foldl_append]
  exact (sealed.through later ⟨rfl, ⟨rfl, rfl⟩⟩).1

/-- Whatever an engine has been asked since it was started, its two tables list the same names, and
each name has its own graph and a walker for just this graph. A registration changes the tables only
if it succeeds, which it does for a graph that has a name before the engine is sealed; then the
graph is listed under that name. Requests change neither table, and once the engine has been sealed
nothing does. -/
theorem tables_of_history
    {settings : Settings}
    {registry : Registry ν η}
    {fresh : Engine ν η}
    (started : start settings registry = .ok fresh)
    (history : List (Use ν η)) :
    let engine := through history fresh
    engine.Consistent ∧
    (∀ registration : Registration,
      (∀ fault, (registration.perform engine).1 = .error fault →
        SameTables (registration.perform engine).2 engine) ∧
      (∀ graph, (registration.perform engine).1 = .ok graph →
        (registration.perform engine).2.controllers =
          engine.controllers.put graph.controller graph) ∧
      ∀ graph, (registration.perform engine).1 = .ok graph ↔
        registration.graph? = .ok graph ∧ engine.isSealed = false ∧ graph.controller ≠ "") ∧
    (∀ host incoming,
      SameTables (execute host incoming engine).2 engine ∧
      SameTables (handle host incoming engine).2 engine) ∧
    (.sealUp ∈ history → ∀ use : Use ν η, SameTables (use.apply engine) engine) := by
  intro engine
  refine ⟨lasting_consistent.through history (consistent_of_start started), ?_, ?_, ?_⟩
  · intro registration
    have registers := registration.registers engine
    refine ⟨?_, ?_, fun graph => Registration.succeeds_iff⟩
    · intro fault fails
      generalize registration.perform engine = ended at registers fails
      cases registers with
      | refused fault => exact ⟨rfl, rfl⟩
      | installed _ _ _ => cases fails
    · intro graph succeeds
      generalize registration.perform engine = ended at registers succeeds
      cases registers with
      | refused fault => cases succeeds
      | installed _ _ _ =>
          cases succeeds
          rfl
  · intro host incoming
    obtain ⟨trace, registry, state_eq⟩ := exists_execute_state host incoming engine
    rw [handle_state, state_eq]
    exact ⟨⟨rfl, rfl⟩, ⟨rfl, rfl⟩⟩
  · intro asked use
    have sealed : engine.isSealed = true := isSealed_through asked fresh
    exact ((lasting_sealed engine).apply use ⟨sealed, ⟨rfl, rfl⟩⟩).2

namespace Sample

/-- The built-in nodes, on a machine without files. -/
def bareHost : Host Unit Builtin where
  files := {}
  load _ _ outside := (.ok none, outside)
  perform builtin := builtin.perform {}

/-- An engine with the built-in nodes that has just been started. -/
def opened : Engine Unit Builtin where
  registry := Registry.withBuiltins id { outside := () }

/-- Two graphs for one name, one without a name, a document, a directory in place of a file,
requests, and a graph that comes after the engine was sealed. -/
def asked : List (Use Unit Builtin) :=
  [.register (.ofGraph { controller := "shop" } none),
    .register (.ofGraph { endpoints := [{ path := some "/" }] } none),
    .register (.ofDocument (.record []) (some "users")),
    .register (.ofFile {} {} none),
    .execute bareHost { controller := "shop", method := "GET", path := "/" },
    .handle bareHost { controller := "users", method := "GET", path := "/" },
    .register (.ofGraph { nodes := [{ id := "get-1" }] } (some "shop")),
    .sealUp,
    .register (.ofGraph { controller := "late" } none)]

end Sample

/-- Through all this two controllers are listed, and nothing that is asked later changes them. -/
theorem tables_of_history_asked :
    (through Sample.asked Sample.opened).controllers.keys = ["shop", "users"] ∧
    (through Sample.asked Sample.opened).Consistent ∧
    ∀ use : Use Unit Builtin, SameTables (use.apply (through Sample.asked Sample.opened))
      (through Sample.asked Sample.opened) := by
  have started : start {} (Registry.withBuiltins id { outside := () }) = .ok Sample.opened := rfl
  obtain ⟨consistent, -, -, sealed⟩ := tables_of_history started Sample.asked
  have asked : .sealUp ∈ Sample.asked := by
    simp [Sample.asked]
  exact ⟨rfl, consistent, sealed asked⟩

end Engine
end RequestFlow
