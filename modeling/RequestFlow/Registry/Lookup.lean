import RequestFlow.Registry.Basic
import RequestFlow.Registry.Manifest

/-!
# Looking up handlers

A type that the registry knows is answered at once. For one that it does not know, the manifest is
consulted, and if a handler of the class that its entry names can be made, that handler serves the
type from then on. A package that cannot be loaded, or has no such class, or whose class cannot be
used, leaves the type unknown.
-/

namespace RequestFlow
namespace Registry

variable {ν η : Type}

/-- The package in the file at a location. -/
def loadPackage (files : FileTree) (load : PackageLoader ν η) (location : Location) :
    Transition (Registry ν η) (Option (NodePackage ν η)) :=
  match files.find location with
  | .file content => outsideStep (load location content)
  | _ => pure none

/-- The package in the file at a location, which is loaded only once. Failing to load it is no
fault. -/
def package? (files : FileTree) (load : PackageLoader ν η) (location : Location) :
    Transition (Registry ν η) (Option (NodePackage ν η)) := do
  match ← .read fun registry => registry.discovery.bind (·.loaded.get? location) with
  | some package => pure (some package)
  | none =>
    match ← .attempt (loadPackage files load location) with
    | .ok (some package) =>
      .modify (remember location package)
      pure (some package)
    | _ => pure none

/-- Give a type a handler that is made in a package, if making it does not fail. -/
def registerMade (typeTag : String) (make : Transition ν η) : Transition (Registry ν η) Bool := do
  match ← .attempt (outsideStep make) with
  | .ok handler =>
    .modify (register typeTag handler)
    pure true
  | .error _ => pure false

/-- Give a type the handler that an entry of a manifest offers for it. -/
def adopt (files : FileTree) (load : PackageLoader ν η) (manifest : Location) (typeTag : String)
    (entry : Fields) : Transition (Registry ν η) Bool := do
  let location ← .ofExcept (Manifest.packageLocation files manifest entry)
  if ← .ofExcept (files.exists? location) then
    match ← package? files load location with
    | none => pure false
    | some package =>
      let name ← .ofExcept (Manifest.className typeTag entry)
      match package.maker? name with
      | none => pure false
      | some make => registerMade typeTag make
  else pure false

/-- Look for a handler of a type in the packages of the manifest, and say whether it has one now. -/
def discover (files : FileTree) (load : PackageLoader ν η) (typeTag : String) :
    Transition (Registry ν η) Bool := do
  match ← .read (·.discovery) with
  | none => pure false
  | some discovery =>
    match ← .ofExcept (Manifest.find? files discovery.manifest typeTag) with
    | none => pure false
    | some entry => adopt files load discovery.manifest typeTag entry

/-- The handler of a type that is not there yet: it is made, or else discovered. -/
def search (files : FileTree) (load : PackageLoader ν η) (typeTag : String) :
    Transition (Registry ν η) (Option η) := do
  match ← provide? typeTag with
  | some handler => pure (some handler)
  | none => if ← discover files load typeTag then provide? typeTag else pure none

/-- The handler of a type, if it has one or one can be found for it. -/
def resolve (files : FileTree) (load : PackageLoader ν η) (typeTag : String) :
    Transition (Registry ν η) (Option η) := do
  match ← .read (ready? typeTag) with
  | some handler => pure (some handler)
  | none => search files load typeTag

/-- Register handlers as they are made, and count them. The first that cannot be made ends this. -/
def registerAll : List (String × Transition ν η) → Transition (Registry ν η) Nat
  | [] => pure 0
  | (typeTag, make) :: rest => do
    let handler ← outsideStep make
    .modify (register typeTag handler)
    let others ← registerAll rest
    pure (others + 1)

/-- Register everything that the package in a file offers, and count it. -/
def registerPackage (files : FileTree) (load : PackageLoader ν η) (location : Location) :
    Transition (Registry ν η) Nat := do
  if ← .ofExcept (files.exists? location) then
    match ← loadPackage files load location with
    | none => pure 0
    | some package => registerAll package.offers
  else pure 0

end Registry
end RequestFlow
