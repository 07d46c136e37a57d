import RequestFlow.Registry.Lookup
import RequestFlow.Settings.Basic
import RequestFlow.Walk.Basic

/-!
# Engines

An engine holds the graphs of controllers and what carries them out. Controllers are registered
until the engine is sealed; after that requests are all that it serves. Each controller has its
graph, which says what the controller serves, and a walker, which walks that graph under the limit
on nested walks that was set when the controller was registered.
-/

namespace RequestFlow

/-- A graph and the limit on how deep walks of it may be nested. -/
structure Walker where
  /-- The graph that is walked. -/
  graph : Graph
  /-- The greatest number of levels. -/
  limit : Int

/-- What the program is given by the machine it runs on: files, packages of nodes, and what the
handlers of nodes do. -/
structure Host (ν η : Type) where
  /-- The files that can be read. -/
  files : FileTree
  /-- How a package is loaded from a file. -/
  load : PackageLoader ν η
  /-- What a handler does with a node. -/
  perform : η → Nodes.Action (Registry ν η)

/-- How nodes are carried out on a host. -/
def Host.handlers {ν η : Type} (host : Host ν η) : Handlers (Registry ν η) η :=
  ⟨Registry.resolve host.files host.load, host.perform⟩

/-- The state of an engine. -/
structure Engine (ν η : Type) where
  /-- The settings that it was built with. -/
  settings : Settings := {}
  /-- The graphs by the names of their controllers. -/
  controllers : Assoc String Graph := []
  /-- The walkers by the names of their controllers. -/
  walkers : Assoc String Walker := []
  /-- Whether no controller can be registered any more. -/
  isSealed : Bool := false
  /-- The registry of handlers. -/
  registry : Registry ν η
  /-- The fields that log lines carry. -/
  trace : Trace := []

namespace Engine

variable {ν η : Type}

/-- The location of the manifest, if the settings name one. -/
def manifestLocation : Value → Except Fault (Option Location)
  | .text path => .ok ((nonEmpty? path).map Location.ofText)
  | value => if value.isTruthy then .error (.notPath value.kind) else .ok none

/-- An engine with a registry and no controllers. A manifest in the settings replaces that of the
registry. -/
def start (settings : Settings) (registry : Registry ν η) : Except Fault (Engine ν η) := do
  match ← manifestLocation settings.manifest with
  | none => pure { settings, registry }
  | some manifest => pure { settings, registry := registry.withManifest (some manifest) }

/-- An engine with a graph and its walker under the name of the graph's controller. -/
def install (graph : Graph) (engine : Engine ν η) : Engine ν η :=
  { engine with
    controllers := engine.controllers.put graph.controller graph
    walkers := engine.walkers.put graph.controller ⟨graph, engine.settings.depthLimit⟩ }

/-- The graph under another controller's name, if another one is given. -/
def named (graph : Graph) (controller : Option String) : Graph :=
  match controller.bind nonEmpty? with
  | some name => if name = graph.controller then graph else graph.renamed name
  | none => graph

/-- Refuse a change to an engine that is sealed. -/
def beforeSeal : Transition (Engine ν η) Unit := do
  if ← .read (·.isSealed) then .fail .sealedEngine else pure ()

/-- Add a controller whose graph has its name. -/
def add (graph : Graph) : Transition (Engine ν η) Graph := do
  if graph.controller = "" then .fail .noControllerName
  else
    .modify (install graph)
    pure graph

/-- Register a graph, under another name if one is given. -/
def register (graph : Graph) (controller : Option String) : Transition (Engine ν η) Graph := do
  beforeSeal
  add (named graph controller)

/-- Register the graph of a document. -/
def registerDocument (document : Value) (controller : Option String) :
    Transition (Engine ν η) Graph := do
  beforeSeal
  let graph ← .ofExcept (Graph.ofDocument document (controller.getD ""))
  add graph

/-- Register the controller whose document a file holds. -/
def loadFile (files : FileTree) (location : Location) (controller : Option String) :
    Transition (Engine ν η) Graph := do
  let graph ← .ofExcept (files.readFlow location controller)
  register graph none

/-- Register the controllers of some files, each under the name of its file, until one fails. -/
def loadFiles (files : FileTree) : List Location → Transition (Engine ν η) (List String)
  | [] => pure []
  | location :: rest => do
    let graph ← loadFile files location none
    let others ← loadFiles files rest
    pure (graph.controller :: others)

/-- Register the controllers of all flow files in a directory. -/
def loadDirectory (files : FileTree) (directory : Location) :
    Transition (Engine ν η) (List String) := do
  let locations ← .ofExcept (files.flowFilesIn directory)
  loadFiles files locations

/-- Admit no more controllers. -/
def sealUp : Transition (Engine ν η) Unit :=
  .modify fun engine => { engine with isSealed := true }

/-- The graph of a controller. -/
def graphOf (controller : String) : Transition (Engine ν η) Graph := do
  match ← .read (·.controllers.get? controller) with
  | some graph => pure graph
  | none => .fail (.controllerNotFound controller)

end Engine
end RequestFlow
