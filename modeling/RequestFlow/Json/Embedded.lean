import RequestFlow.Json.Reader
import RequestFlow.Fault

/-!
# JSON in texts

A text that comes from a client or a configuration may or may not be JSON. Malformed text is then no
fault; a whole number with too many digits is one.
-/

namespace RequestFlow
namespace Json

/-- The value of a text that is JSON; nothing if it is malformed. -/
def embedded? (content : String) : Except Fault (Option Value) :=
  match read content with
  | .ok value => .ok (some value)
  | .error .malformed => .ok none
  | .error (.tooManyDigits count) => .error (.tooManyDigits count)

end Json
end RequestFlow
