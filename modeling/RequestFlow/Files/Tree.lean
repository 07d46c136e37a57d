import RequestFlow.Assoc
import RequestFlow.Fault
import RequestFlow.Files.Location

/-!
# Trees of files

The files that a program sees, each a sequence of bytes, by their places. A place is a location from
the root without double dots. A directory is there if it is listed or has something in it; the root,
the working directory and those above it are always there. There are no links, and whatever is there
may be read.
-/

namespace RequestFlow

/-- The files and directories that a program sees. -/
structure FileTree where
  /-- The bytes of the files, by their places. -/
  files : Assoc Location (List UInt8) := []
  /-- The places of directories, which may have nothing in them. -/
  directories : List Location := []
  /-- The place where paths without a root begin. -/
  workingDirectory : Location := { root := "/" }

/-- What a path leads to. -/
inductive Finding
  | file (content : List UInt8)
  | directory
  | missing
  | throughFile
  | tooLong
  | unspeakable
  deriving DecidableEq, Repr

namespace FileTree

/-- The longest name, in bytes. -/
def nameLimit : Nat := 255

/-- The longest path, in bytes. -/
def pathLimit : Nat := 4095

/-- The number of bytes of a path. -/
def pathSize (path : String) : Nat :=
  (Text.encodeUtf8 path.toList).length

/-- Where the names of a location begin. -/
def origin (tree : FileTree) (location : Location) : Location :=
  if location.root = "" then tree.workingDirectory else { root := location.root }

/-- A location with its root, and without double dots. -/
def absolute (tree : FileTree) (location : Location) : Location :=
  (tree.origin location).along location.names

/-- The place of what is at a location. The root with two slashes is the same place. -/
def place (tree : FileTree) (location : Location) : Location :=
  { tree.absolute location with root := "/" }

/-- The tree with a file of the given bytes. -/
def write (location : Location) (content : List UInt8) (tree : FileTree) : FileTree :=
  { tree with files := tree.files.put (tree.place location) content }

/-- The files of the given texts, by their paths; the later of two files with one path counts. -/
def ofTexts (entries : List (String × String)) : FileTree :=
  entries.foldl
    (fun tree entry => tree.write (.ofText entry.1) (Text.encodeUtf8 entry.2.toList)) {}

/-- The places that are known to be there. -/
def places (tree : FileTree) : List Location :=
  tree.workingDirectory :: tree.files.keys ++ tree.directories

/-- Whether there is a directory at a place where there is no file. -/
def hasDirectory (place : Location) (tree : FileTree) : Bool :=
  place.names.isEmpty || tree.places.contains place || tree.places.any place.isBelow

/-- Follow names from a place. Every one but the last has to lead to a directory. -/
def follow (tree : FileTree) (reached : Location) : List String → Finding
  | [] =>
    match tree.files.get? reached with
    | some content => .file content
    | none => if tree.hasDirectory reached then .directory else .missing
  | name :: rest =>
    if (tree.files.get? reached).isSome then .throughFile
    else if !tree.hasDirectory reached then .missing
    else if nameLimit < pathSize name then .tooLong
    else follow tree (reached.step name) rest

/-- What is at a location. The whole path is looked at before any of its names is followed. -/
def find (tree : FileTree) (location : Location) : Finding :=
  if location.names.any (·.contains '\x00') then .unspeakable
  else if pathLimit < pathSize location.text then .tooLong
  else follow tree { tree.origin location with root := "/" } location.names

/-- The bytes of a file. -/
def readFile (tree : FileTree) (location : Location) : Except Fault (List UInt8) :=
  match tree.find location with
  | .file content => .ok content
  | .directory => .error (.fileIsDirectory location.text)
  | .missing => .error (.fileMissing location.text)
  | .throughFile => .error (.pathThroughFile location.text)
  | .tooLong => .error (.nameTooLong location.text)
  | .unspeakable => .error .nullInPath

/-- Whether there is anything at a location. -/
def exists? (tree : FileTree) (location : Location) : Except Fault Bool :=
  match tree.find location with
  | .file _ | .directory => .ok true
  | .missing | .throughFile | .unspeakable => .ok false
  | .tooLong => .error (.nameTooLong location.text)

/-- Whether there is a directory at a location. -/
def isDirectory (tree : FileTree) (location : Location) : Except Fault Bool :=
  match tree.find location with
  | .directory => .ok true
  | .file _ | .missing | .throughFile | .unspeakable => .ok false
  | .tooLong => .error (.nameTooLong location.text)

/-- The name by which something below a directory is listed in it. -/
def childName? (directory place : Location) : Option String :=
  if directory.isBelow place then place.names[directory.names.length]? else none

/-- The names in a directory, in order. -/
def namesIn (tree : FileTree) (directory : Location) : List String :=
  let found := tree.places.filterMap (childName? (tree.place directory))
  found.eraseDups.mergeSort fun first second => first ≤ second

end FileTree
end RequestFlow
