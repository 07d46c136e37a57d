import RequestFlow.Files.Tree
import RequestFlow.Graph.Document
import RequestFlow.Json.Embedded

/-!
# Documents in files

A text file is encoded in UTF-8 and may begin with a byte order mark, which is no part of its text.
A flow file holds the document of one controller, which is named after the file unless another name
is given.
-/

namespace RequestFlow
namespace FileTree

/-- The bytes of the byte order mark. -/
def orderMark : List UInt8 :=
  [0xEF, 0xBB, 0xBF]

/-- The bytes of a file without the byte order mark at its front. If the file ends within the mark,
nothing is left of it. -/
def withoutMark (content : List UInt8) : List UInt8 :=
  if content.isPrefixOf orderMark then []
  else if orderMark.isPrefixOf content then content.drop orderMark.length
  else content

/-- The text of a file. -/
def textOf (content : List UInt8) : Except Fault String :=
  match Text.decodeUtf8 (withoutMark content) with
  | .ok text => .ok (String.ofList text)
  | .error flaw => .error (.undecodable flaw)

/-- The value of a file that is JSON; nothing if its text is malformed. -/
def jsonOf (content : List UInt8) : Except Fault (Option Value) := do
  Json.embedded? (← textOf content)

/-- The flow of the controller whose document a file holds. -/
def readFlow (tree : FileTree) (location : Location) (controller : Option String) :
    Except Fault Graph := do
  match ← jsonOf (← tree.readFile location) with
  | none => .error (.invalidFlowFile location.text)
  | some document => Graph.ofDocument document ((controller.bind nonEmpty?).getD location.stem)

/-- The flow files in a directory, in the order of their names. -/
def flowFilesIn (tree : FileTree) (directory : Location) : Except Fault (List Location) := do
  if ← tree.isDirectory directory then
    .ok (((tree.namesIn directory).filter (·.endsWith ".json")).map directory.child)
  else .ok []

end FileTree
end RequestFlow
