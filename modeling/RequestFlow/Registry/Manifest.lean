import RequestFlow.Files.Content
import RequestFlow.Graph.Entry

/-!
# Manifests

A manifest is a JSON file that lists packages of nodes. Each entry names the file of a package, and
a type, a class, or both. An entry answers for a type if it names that type, or if its class is
named after the type. Anything in the list that has no file is passed over, and a file that is not a
manifest lists nothing.
-/

namespace RequestFlow
namespace Manifest

/-- A type with its first letter in upper case. -/
def capitalized (typeTag : String) : String :=
  match typeTag.toList with
  | [] => ""
  | first :: rest => String.ofList (Text.upper [first] ++ rest)

/-- The name of the class that serves a type, unless an entry says otherwise. -/
def defaultClass (typeTag : String) : String :=
  "Node" ++ capitalized typeTag

/-- The entries in a document: the objects in its list of nodes that name a file. -/
def entriesOf : Option Value → List Fields
  | some (.object fields) =>
    match Fields.get "nodes" fields with
    | .list items => items.filterMap fun
      | .object entry => if (Fields.get "file" entry).isTruthy then some entry else none
      | _ => none
    | _ => []
  | _ => []

/-- The entries of a manifest. -/
def entries (files : FileTree) (manifest : Location) : Except Fault (List Fields) := do
  if ← files.exists? manifest then
    match files.find manifest with
    | .file content => (FileTree.jsonOf content).map entriesOf
    | _ => .ok []
  else .ok []

/-- Whether an entry answers for a type. The class is looked at only if the type is another one. -/
def answersFor (typeTag : String) (entry : Fields) : Except Fault Bool :=
  if (entry.get "type").same (.text typeTag) then .ok true
  else
    match entry.get "class" with
    | .text name => .ok (name == capitalized typeTag || name == defaultClass typeTag)
    | other => if other.toKey?.isSome then .ok false else .error (.unhashable other.unkeyableKind)

/-- The first entry that answers for a type. -/
def firstFor? (typeTag : String) : List Fields → Except Fault (Option Fields)
  | [] => .ok none
  | entry :: rest => do
    if ← answersFor typeTag entry then .ok (some entry) else firstFor? typeTag rest

/-- The entry of a manifest that answers for a type. -/
def find? (files : FileTree) (manifest : Location) (typeTag : String) :
    Except Fault (Option Fields) := do
  firstFor? typeTag (← entries files manifest)

/-- The location of the package that an entry names, seen from the manifest. -/
def packageLocation (files : FileTree) (manifest : Location) (entry : Fields) :
    Except Fault Location :=
  match entry.get "file" with
  | .text path =>
    let location := manifest.parent.join path
    if location.names.any (·.contains '\x00') then .error .nullInPath
    else .ok (files.absolute location)
  | other => .error (.noPathFrom other.kind)

/-- The name of the class that an entry offers for a type. -/
def className (typeTag : String) (entry : Fields) : Except Fault String :=
  match (entry.get "class").orElse (.text (defaultClass typeTag)) with
  | .text name => .ok name
  | other => .error (.memberNameNotText other.kind)

end Manifest
end RequestFlow
