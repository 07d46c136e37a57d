import RequestFlow.Files.Location
import RequestFlow.Flow.Transition

/-!
# Packages of nodes

Nodes that do not belong to the program come in packages, one to a file. A package lists handlers
under their types, and has classes of nodes which may name types of their own. Making a handler may
fail, and may change the state that packages keep.
-/

namespace RequestFlow

/-- A class of nodes: its name, the types it names for itself, whether it was taken over from
another package, and how a handler of the class is made. -/
structure NodeClass (ν η : Type) where
  /-- The name of the class. -/
  name : String
  /-- The types that it names for itself. -/
  types : List String := []
  /-- Whether it was taken over from another package. -/
  borrowed : Bool := false
  /-- How a handler of the class is made. -/
  make : Transition ν η

/-- What a package offers. -/
structure NodePackage (ν η : Type) where
  /-- The factories that are listed under their types. -/
  listed : List (String × Transition ν η) := []
  /-- The classes of nodes, in order. -/
  classes : List (NodeClass ν η) := []

/-- How a package is loaded from the file at a location, with its bytes. The file may be no package
at all, and loading may fail. -/
abbrev PackageLoader (ν η : Type) :=
  Location → List UInt8 → Transition ν (Option (NodePackage ν η))

namespace NodePackage

variable {ν η : Type}

/-- How a handler of a class is made, if the package has the class. -/
def maker? (name : String) (package : NodePackage ν η) : Option (Transition ν η) :=
  (package.classes.find? (·.name == name)).map (·.make)

/-- The types that the classes of a package name for themselves, by the order of the classes'
names. -/
def named (package : NodePackage ν η) : List (String × Transition ν η) :=
  ((package.classes.filter fun member => !member.borrowed).mergeSort fun first second =>
    first.name ≤ second.name).flatMap fun member => member.types.map (·, member.make)

/-- Every type with a handler to offer for it: first those listed, then those that classes name. -/
def offers (package : NodePackage ν η) : List (String × Transition ν η) :=
  package.listed ++ package.named

end NodePackage
end RequestFlow
