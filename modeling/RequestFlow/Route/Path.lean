import RequestFlow.Text.Blank
import RequestFlow.Text.CharSet

/-!
# Request paths

Paths are compared without surrounding blanks and trailing slashes, and with a slash at the front;
the root is the single slash. The first segment of a path names the controller that serves it.
-/

namespace RequestFlow
namespace Route

open Text

/-- A path with a slash at its front and none at its end, the root excepted. -/
def normalize (path : List Char) : List Char :=
  let trimmed := trim path
  let rooted := match trimmed with
    | '/' :: _ => trimmed
    | _ => '/' :: trimmed
  match dropEndWhile (· == '/') rooted with
  | [] => ['/']
  | kept => kept

/-- The segments of a path. The root has a single empty one. -/
def segments (path : List Char) : List (List Char) :=
  splitAt '/' (dropEndWhile (· == '/') ((normalize path).dropWhile (· == '/')))

/-- The first segment of a path that is not empty. -/
def firstSegment? (path : List Char) : Option (List Char) :=
  (splitAt '/' path).find? (· ≠ [])

end Route
end RequestFlow
