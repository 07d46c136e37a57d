import RequestFlow.Flow.Request
import RequestFlow.Pattern.Search

/-!
# Validation rules

A rule is an object that names its kind and says what it asks of a value; applying it gives a
verdict. Rules of unknown kinds pass. A rule that fails gives its own message, or a default one for
its kind. Rules may also name a predicate of the host program, or hold one.
-/

namespace RequestFlow
namespace Rules

/-- A verdict: whether the value passed, and otherwise what to say about it. -/
structure Verdict where
  /-- Whether the value passed. -/
  valid : Bool
  /-- What is said about it. -/
  message : Value
  deriving Repr

namespace Verdict

/-- The verdict that a value passed. -/
def passed : Verdict := ⟨true, .text ""⟩

/-- The verdict that a value did not pass, with the message of the rule or the default one. -/
def failed (rule : Fields) (default : String) : Verdict :=
  ⟨false, (rule.get "message").orElse (.text default)⟩

/-- The verdict of a test. -/
def ofTest (ok : Bool) (rule : Fields) (default : String) : Verdict :=
  if ok then passed else failed rule default

/-- A verdict as a value. -/
def toValue (verdict : Verdict) : Value :=
  .record [("valid", .bool verdict.valid), ("message", verdict.message)]

end Verdict

/-- A predicate of the host program: what it answers for a value, a rule and a request. -/
abbrev Predicate := Value → Fields → Request → Except Fault Value

/-- What the host program supports rules with. By default no predicate is known, no text is the
address of a mailbox and no character has a name. -/
structure Support where
  /-- The predicates that rules may name. -/
  predicate? : String → Option Predicate := fun _ => none
  /-- Whether a text is the address of a mailbox. -/
  isAddress : String → Bool := fun _ => false
  /-- The characters that patterns may name. -/
  names : Pattern.CharacterNames := fun _ => none

/-- Whether a value is a number or the text of a decimal numeral. -/
def isNumeric : Value → Bool
  | .int _ | .float _ => true
  | .text content => Numeral.isDecimal content.toList
  | _ => false

/-- Whether something is there: neither null nor empty nor a blank text. -/
def isPresent : Value → Bool
  | .null => false
  | .text content => !(Text.trim content.toList).isEmpty
  | .list items => !items.isEmpty
  | .tuple items => !items.isEmpty
  | .object fields => !fields.isEmpty
  | _ => true

/-- The number of characters of a text; anything else counts as empty. -/
def textLength : Value → Nat
  | .text content => content.length
  | _ => 0

/-- The text of a value in which a pattern is searched: nothing for null and false, and `1` for
true. -/
def searchText : Value → String
  | .null => ""
  | .bool flag => if flag then "1" else ""
  | value => value.display

/-- Whether a value is the text of an email address. The empty text is none, whatever the host
program says. -/
def isEmail (support : Support) : Value → Bool
  | .text content => !content.isEmpty && support.isAddress content
  | _ => false

/-- The bound that a rule gives; null stands for zero. -/
def boundOf (rule : Fields) : Value :=
  ((rule.get "value").nonNull?).getD (.int 0)

/-- Whether a length and a bound compare as asked. A bound that is no number is never met. -/
def checkLength (compares : Double → Double → Bool) (value bound : Value) : Except Fault Bool :=
  if isNumeric bound then do
    let limit ← bound.toDouble
    pure (compares limit (.ofInt (textLength value)))
  else pure false

/-- Whether a value and a bound compare as asked. Both have to be numbers. -/
def checkNumber (compares : Double → Double → Bool) (value bound : Value) : Except Fault Bool :=
  if isNumeric value && isNumeric bound then do
    let number ← value.toDouble
    let limit ← bound.toDouble
    pure (compares limit number)
  else pure false

/-- The verdict of a pattern on a value. A pattern that cannot be read fails every value. -/
def checkPattern (support : Support) (rule : Fields) (value : Value) : Except Fault Verdict :=
  let pattern := rule.get "pattern"
  if pattern.isTruthy then
    match Pattern.ofText support.names pattern.display with
    | .ok compiled =>
      let found := compiled.search? (searchText value).toList
      .ok (.ofTest found.isSome rule "Invalid format")
    | .error .malformed => .ok (.failed rule "Invalid regex pattern")
    | .error .codeTooLarge => .error .codeTooLarge
    | .error .repetitionTooLarge => .error .repetitionTooLarge
    | .error (.tooManyDigits count) => .error (.tooManyDigits count)
    | .error .conflictingAlphabets => .error .conflictingAlphabets
  else .ok (.failed rule "Regex pattern not defined")

/-- The verdict in what a predicate answers. -/
def verdictOf : Value → Except Fault Verdict
  | .object answer =>
    .ok ⟨(Fields.get "valid" answer).isTruthy,
      (Assoc.get? (.text "message") answer).getD (.text "")⟩
  | answer => .error (.noMember answer.kind "get")

/-- The name of the predicate that a rule asks for, if it asks for one. -/
def predicateName? (rule : Fields) : Option String :=
  match rule.get "function" with
  | .predicate name => some name
  | function => if function.isTruthy then some function.display else none

/-- The verdict of a predicate on a value. A predicate that is not known passes. -/
def checkPredicate (support : Support) (request : Request) (rule : Fields) (value : Value) :
    Except Fault Verdict :=
  match (predicateName? rule).bind support.predicate? with
  | none => .ok .passed
  | some predicate => do
    let answer ← predicate value rule request
    verdictOf answer

/-- The kind of a rule; without one, the value is required. -/
def kindOf (rule : Fields) : Value :=
  (Assoc.get? (.text "type") rule).getD (.text "required")

/-- The second number is at least the first. -/
def reaches (limit number : Double) : Bool :=
  limit.le number

/-- The second number is at most the first. -/
def staysWithin (limit number : Double) : Bool :=
  number.le limit

/-- Apply a rule to a value. -/
def applyFields (support : Support) (request : Request) (rule : Fields) (value : Value) :
    Except Fault Verdict :=
  let bound := boundOf rule
  match kindOf rule with
  | .text "required" => .ok (.ofTest (isPresent value) rule "This field is required")
  | .text "minLength" => do
    let ok ← checkLength reaches value bound
    pure (.ofTest ok rule ("Minimum of " ++ bound.display ++ " characters"))
  | .text "maxLength" => do
    let ok ← checkLength staysWithin value bound
    pure (.ofTest ok rule ("Maximum of " ++ bound.display ++ " characters"))
  | .text "email" => .ok (.ofTest (isEmail support value) rule "Invalid email")
  | .text "numeric" => .ok (.ofTest (isNumeric value) rule "Must be a number")
  | .text "min" => do
    let ok ← checkNumber reaches value bound
    pure (.ofTest ok rule ("Minimum value: " ++ bound.display))
  | .text "max" => do
    let ok ← checkNumber staysWithin value bound
    pure (.ofTest ok rule ("Maximum value: " ++ bound.display))
  | .text "regex" => checkPattern support rule value
  | .text "custom" => checkPredicate support request rule value
  | _ => .ok .passed

/-- Apply a rule to a value; what is no object is no rule. -/
def apply (support : Support) (request : Request) (rule value : Value) :
    Except Fault Verdict :=
  match rule with
  | .object fields => applyFields support request fields value
  | _ => .error (.noMember rule.kind "get")

end Rules
end RequestFlow
