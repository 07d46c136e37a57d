import RequestFlow.Text.CharSet

/-!
# Locations of files

A location is where a path leads from: the working directory or a root, and the names to follow from
there. Empty names and single dots in a path lead nowhere and are left out. A double dot is kept as
a name, since it may lead through a directory that is not there, until the names are followed.
-/

namespace RequestFlow

/-- Where a file is. -/
structure Location where
  /-- The root that the file is found from, empty for the working directory. -/
  root : String := ""
  /-- The names that lead to the file. -/
  names : List String := []
  deriving DecidableEq, Repr, Inhabited

namespace Location

/-- The root at the front of a path. Two slashes are a root of their own, any more are one. -/
def rootOf : List Char → String
  | '/' :: '/' :: '/' :: _ => "/"
  | '/' :: '/' :: _ => "//"
  | '/' :: _ => "/"
  | _ => ""

/-- The location that a path leads to. -/
def ofText (path : String) : Location where
  root := rootOf path.toList
  names := ((Text.splitAt '/' path.toList).filter fun name => name ≠ [] ∧ name ≠ ['.']).map
    String.ofList

/-- The path of a location. -/
def text (location : Location) : String :=
  match location.root ++ "/".intercalate location.names with
  | "" => "."
  | path => path

/-- The last name of a location. -/
def name (location : Location) : String :=
  location.names.getLast?.getD ""

/-- A name without what follows its last dot, unless the dot is at either end. -/
def stemOf (name : List Char) : List Char :=
  match (name.reverse.dropWhile (· ≠ '.')).reverse with
  | [] => name
  | ['.'] => name
  | before => if before.length = name.length then name else before.dropLast

/-- The last name of a location without its extension. -/
def stem (location : Location) : String :=
  String.ofList (stemOf location.name.toList)

/-- The location one name up. -/
def parent (location : Location) : Location :=
  { location with names := location.names.dropLast }

/-- The location that a path leads to from a location. -/
def join (location : Location) (path : String) : Location :=
  let other := ofText path
  if other.root = "" then { location with names := location.names ++ other.names } else other

/-- The location of something in a directory. -/
def child (directory : Location) (name : String) : Location :=
  { directory with names := directory.names ++ [name] }

/-- One more name, where a double dot goes back by a name. -/
def step (location : Location) (name : String) : Location :=
  if name = ".." then location.parent else location.child name

/-- The location that is reached by following names. -/
def along (location : Location) (names : List String) : Location :=
  names.foldl step location

/-- Whether a location lies below another. -/
def isBelow (directory location : Location) : Bool :=
  directory.root = location.root && directory.names.isPrefixOf location.names &&
    directory.names.length < location.names.length

end Location
end RequestFlow
