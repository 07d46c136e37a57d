import RequestFlow.Assoc
import RequestFlow.Route.Path
import RequestFlow.Text.Percent

/-!
# Path patterns

A pattern is a path some of whose segments are parameters, written `:name` or `{name}`. A path
matches if it has as many segments, equal literals, and something in the place of every parameter;
the match gives each parameter the percent-decoded segment in its place.
-/

namespace RequestFlow
namespace Route

open Text

/-- A segment of a pattern. -/
inductive Segment
  | literal (content : List Char)
  | parameter (name : List Char)
  deriving DecidableEq, Repr

/-- Letters of ASCII and the underscore: what a parameter's name begins with. -/
def isNameStart (character : Char) : Bool :=
  character.isAlpha || character == '_'

/-- A parameter's name: a letter or underscore, then letters, digits and underscores. -/
def isName : List Char → Bool
  | [] => false
  | first :: rest => isNameStart first && rest.all fun c => isNameStart c || c.isDigit

/-- A text without one line end at its end. -/
def dropLineEnd (text : List Char) : List Char :=
  match text.getLast? with
  | some '\n' => text.dropLast
  | _ => text

/-- The name of a parameter between braces. -/
def bracedName? (content : List Char) : Option (List Char) :=
  match content.getLast? with
  | some '\x7d' => if isName content.dropLast then some content.dropLast else none
  | _ => none

/-- Read a segment of a pattern. A line end after a parameter is passed over. -/
def Segment.read (content : List Char) : Segment :=
  match dropLineEnd content with
  | ':' :: name => if isName name then .parameter name else .literal content
  | '\x7b' :: rest =>
    match bracedName? rest with
    | some name => .parameter name
    | none => .literal content
  | _ => .literal content

/-- The segments of a pattern. -/
def pattern (path : List Char) : List Segment :=
  (segments path).map Segment.read

/-- Match segments one by one and collect the parameters. A name that occurs again takes the later
value. -/
def matchSegments (found : Assoc String String) :
    List Segment → List (List Char) → Option (Assoc String String)
  | [], [] => some found
  | .literal content :: patterns, actual :: rest =>
    if content = actual then matchSegments found patterns rest else none
  | .parameter name :: patterns, actual :: rest =>
    if actual.isEmpty then none
    else
      matchSegments (found.put (String.ofList name) (String.ofList (percentDecode actual)))
        patterns rest
  | _, _ => none

/-- The parameters of a path that matches a pattern. -/
def match? (declared path : String) : Option (Assoc String String) :=
  matchSegments [] (pattern declared.toList) (segments path.toList)

end Route
end RequestFlow
