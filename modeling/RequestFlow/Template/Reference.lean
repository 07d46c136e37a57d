import RequestFlow.Text.CharSet

/-!
# References in texts

A reference has the form `{{node.key.path}}`: the id of a node, the key of an outcome, and a dotted
path into the payload that the node recorded under that key. Node and key are words of ASCII
letters, digits, underscores and hyphens; the path is a run of such characters and points, and so
may have empty parts.

A text is cut into pieces from left to right. Each piece is a reference that stands there or a
single character that starts none.
-/

namespace RequestFlow
namespace Template

open Text

/-- Letters and digits of ASCII, the underscore and the hyphen. -/
def isTokenChar (character : Char) : Bool :=
  character.isAlphanum || character == '_' || character == '-'

/-- A character of a path: of a word, or a point. -/
def isPathChar (character : Char) : Bool :=
  isTokenChar character || character == '.'

/-- A reference to a part of a recorded payload. -/
structure Reference where
  /-- The id of the node. -/
  node : List Char
  /-- The key of its outcome. -/
  key : List Char
  /-- The segments of the path into the payload. -/
  path : List (List Char)
  deriving DecidableEq, Repr

namespace Reference

/-- Parts of a text with points between them. -/
def joinPath : List (List Char) → List Char
  | [] => []
  | [part] => part
  | part :: rest => part ++ '.' :: joinPath rest

/-- The text of a reference. -/
def source (reference : Reference) : List Char :=
  ['\x7b', '\x7b'] ++ reference.node ++ '.' :: reference.key ++ '.' :: joinPath reference.path ++
    ['\x7d', '\x7d']

end Reference

/-- A word and a point at the start of a text: the word and what follows the point. -/
def takeToken? (input : List Char) : Option (List Char × List Char) :=
  match input.takeWhile isTokenChar, input.dropWhile isTokenChar with
  | [], _ => none
  | token, '.' :: rest => some (token, rest)
  | _, _ => none

/-- A path and the closing braces at the start of a text. -/
def takePath? (input : List Char) : Option (List (List Char)) :=
  match input.takeWhile isPathChar, input.dropWhile isPathChar with
  | [], _ => none
  | path, '\x7d' :: '\x7d' :: _ => some (splitAt '.' path)
  | _, _ => none

/-- The reference at the start of a text. -/
def reference? : List Char → Option Reference
  | '\x7b' :: '\x7b' :: input =>
    match takeToken? input with
    | none => none
    | some (node, afterNode) =>
      match takeToken? afterNode with
      | none => none
      | some (key, afterKey) => (takePath? afterKey).map fun path => ⟨node, key, path⟩
  | _ => none

/-- A part of a text. -/
inductive Piece
  | literal (character : Char)
  | reference (reference : Reference)
  deriving DecidableEq, Repr

/-- The text of a piece. -/
def Piece.source : Piece → List Char
  | .literal character => [character]
  | .reference occurring => occurring.source

/-- Cut a text into pieces, after passing over its first `covered` characters, which belong to a
reference found before. -/
def piecesAfter : (covered : Nat) → List Char → List Piece
  | _, [] => []
  | covered + 1, _ :: rest => piecesAfter covered rest
  | 0, character :: rest =>
    match reference? (character :: rest) with
    | some reference => .reference reference :: piecesAfter (reference.source.length - 1) rest
    | none => .literal character :: piecesAfter 0 rest

/-- Cut a text into pieces. -/
def pieces (text : List Char) : List Piece :=
  piecesAfter 0 text

/-- A reference in a text, with the positions of its first character and of the one after its
last. -/
structure Occurrence where
  /-- The position of its first character. -/
  start : Nat
  /-- The position after its last character. -/
  stop : Nat
  /-- The reference itself. -/
  reference : Reference
  deriving DecidableEq, Repr

/-- The references among pieces, the first of which stands at the given position. -/
def locate : (position : Nat) → List Piece → List Occurrence
  | _, [] => []
  | position, .literal _ :: rest => locate (position + 1) rest
  | position, .reference reference :: rest =>
    let stop := position + reference.source.length
    ⟨position, stop, reference⟩ :: locate stop rest

/-- The references of a text, from left to right. -/
def references (text : List Char) : List Occurrence :=
  locate 0 (pieces text)

end Template
end RequestFlow
