import RequestFlow.Assoc
import RequestFlow.Nodes.Builtin
import RequestFlow.Registry.Package

/-!
# The registry of handlers

The registry says which handler a type has. Some handlers are there from the start, others are made
by a factory when their type is first looked up, and types that are still unknown may be discovered
in packages that a manifest lists.
-/

namespace RequestFlow

/-- Where to look for unknown types: the manifest, and the packages loaded so far. -/
structure Discovery (ν η : Type) where
  /-- Where the manifest is. -/
  manifest : Location
  /-- The packages loaded so far, by their locations. -/
  loaded : Assoc Location (NodePackage ν η) := []

/-- The handlers of types, the factories of those that are not made yet, the place to look for
others, and the state that packages keep. -/
structure Registry (ν η : Type) where
  /-- The handlers that have been made, by their types. -/
  handlers : Assoc String η := []
  /-- The factories of handlers that are not made yet, by their types. -/
  factories : Assoc String (Transition ν η) := []
  /-- Where unknown types are looked for. -/
  discovery : Option (Discovery ν η) := none
  /-- The state that packages keep. -/
  outside : ν

namespace Registry

variable {ν η α : Type}

/-- The registry in which a type has the given handler. -/
def register (typeTag : String) (handler : η) (registry : Registry ν η) : Registry ν η :=
  { registry with handlers := registry.handlers.put typeTag handler }

/-- The registry in which a type has the given factory. -/
def registerFactory (typeTag : String) (make : Transition ν η) (registry : Registry ν η) :
    Registry ν η :=
  { registry with factories := registry.factories.put typeTag make }

/-- The registry that looks for unknown types in the packages of a manifest, or nowhere. -/
def withManifest (manifest : Option Location) (registry : Registry ν η) : Registry ν η :=
  { registry with discovery := manifest.map fun location => { manifest := location } }

/-- Whether a type is known without looking into packages. -/
def has (typeTag : String) (registry : Registry ν η) : Bool :=
  registry.handlers.has typeTag || registry.factories.has typeTag

/-- The known types, in order. -/
def types (registry : Registry ν η) : List String :=
  ((registry.handlers.keys ++ registry.factories.keys).mergeSort fun first second =>
    first ≤ second).eraseDups

/-- The registry with the built-in nodes. -/
def withBuiltins (embed : Builtin → η) (registry : Registry ν η) : Registry ν η :=
  let ready := Builtin.ready.foldl (fun registry entry => registry.register entry.1 (embed entry.2))
    registry
  Builtin.made.foldl (fun registry entry => registry.registerFactory entry.1 (pure (embed entry.2)))
    ready

/-- The registry to which a package has been added that was loaded from a file. -/
def remember (location : Location) (package : NodePackage ν η) (registry : Registry ν η) :
    Registry ν η :=
  { registry with discovery := registry.discovery.map fun discovery =>
      { discovery with loaded := discovery.loaded.put location package } }

/-- Run a transition of the state that packages keep. -/
def outsideStep (transition : Transition ν α) : Transition (Registry ν η) α :=
  .onPart (·.outside) (fun outside registry => { registry with outside }) transition

/-- The handler of a type that is there already. -/
def ready? (typeTag : String) (registry : Registry ν η) : Option η :=
  registry.handlers.get? typeTag

/-- Make the handler of a type by its factory. The factory is taken out before it runs. -/
def make? (typeTag : String) : Transition (Registry ν η) (Option η) := do
  match ← .read (·.factories.get? typeTag) with
  | none => pure none
  | some make =>
    .modify fun registry => { registry with factories := registry.factories.erase typeTag }
    let handler ← outsideStep make
    .modify (register typeTag handler)
    pure (some handler)

/-- The handler of a type that is there or can be made. -/
def provide? (typeTag : String) : Transition (Registry ν η) (Option η) := do
  match ← .read (ready? typeTag) with
  | some handler => pure (some handler)
  | none => make? typeTag

end Registry
end RequestFlow
