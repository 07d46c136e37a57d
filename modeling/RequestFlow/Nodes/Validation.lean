import RequestFlow.Nodes.Variable
import RequestFlow.Rules.Basic

/-!
# Validation nodes

A validation node applies every rule of its configuration to one value, taken from a variable, from
the configuration, or from the request. A value that passes leaves by `success`, and otherwise the
messages of the rules it did not pass leave by `failure`. Only then is anything set: the configured
variable, and then the variables of the configured actions.
-/

namespace RequestFlow
namespace Nodes

/-- The items of a value that can be gone through one by one: the items of a list, the keys of an
object, and the characters of a text. -/
def itemsToApply : Value → Except Fault (List Value)
  | .list items | .tuple items => .ok items
  | .object fields => .ok (fields.map fun field => field.1.toValue)
  | .text content => .ok (content.toList.map fun character => .text character.toString)
  | value => .error (.notIterable value.kind)

/-- The name between double braces, or the name itself. -/
def unbraced (name : List Char) : List Char :=
  match name with
  | '\x7b' :: '\x7b' :: rest =>
    let inner := rest.take (rest.length - 2)
    let last := rest.drop (rest.length - 2)
    if last == ['\x7d', '\x7d'] && !inner.isEmpty && !inner.contains '\n' then
      Text.trim inner
    else name
  | _ => name

/-- The variable that a name refers to. -/
def variableName (name : Value) : String :=
  String.ofList (unbraced (Text.trim name.display.toList))

/-- Follow the fields of objects; null and what is no object lead nowhere. -/
def followFields (value : Value) : List (List Char) → Value
  | [] => value
  | name :: rest =>
    match value with
    | .object fields =>
      match (Fields.get (String.ofList name) fields).nonNull? with
      | some part => followFields part rest
      | none => .null
    | _ => .null

/-- The value to validate: of a variable, else the configured one, else a part of the request. -/
def subject (config : Fields) (memory : Memory) (request : Request) : Value :=
  match (config.get "variableName").nonNull? with
  | some name => (memory.getVariable? (variableName name)).getD .null
  | none =>
    match (config.get "value").nonNull? with
    | some value => value
    | none =>
      match (config.get "contextPath").nonNull? with
      | some path => followFields request.toValue (Text.splitAt '.' path.display.toList)
      | none => .null

/-- The messages of the rules that a value does not pass. -/
def failures (support : Rules.Support) (request : Request) (value : Value) :
    List Value → Except Fault (List Value)
  | [] => .ok []
  | rule :: rest => do
    let verdict ← Rules.apply support request rule value
    let others ← failures support request value rest
    pure (if verdict.valid then others else verdict.message :: others)

/-- The rules of a configuration. -/
def configuredRules (config : Fields) : Except Fault (List Value) :=
  itemsToApply ((config.get "rules").orElse (.list []))

/-- Set the configured variable, if one is named. -/
def setNamed (name value : Value) (memory : Memory) : Memory :=
  if name.isTruthy then memory.setVariable name.display value else memory

/-- Do what an action says, if it says anything. -/
def act (memory : Memory) : Value → Memory
  | .object action =>
    if (Fields.get "type" action).same (.text "setVariable") then
      setNamed (Fields.get "name" action) (Fields.get "value" action) memory
    else memory
  | _ => memory

/-- Do what a list of actions says. -/
def actAll (actions : Value) (memory : Memory) : Memory :=
  match actions with
  | .list items => items.foldl act memory
  | _ => memory

/-- What a validation node remembers: the named variable first, then the actions. -/
def conclude (config : Fields) (name actions : String) (value : Value) (memory : Memory) : Memory :=
  actAll (config.get actions) (setNamed (config.get name) value memory)

/-- Apply the configured rules to the configured value. -/
def validate {ω : Type} (support : Rules.Support) : Action ω := fun call _ => do
  let config := call.node.data
  let request ← .read (·.request)
  let memory ← .read (·.memory)
  let value := subject config memory request
  let rules ← .ofExcept (configuredRules config)
  match ← .ofExcept (failures support request value rules) with
  | [] =>
    Session.remember (conclude config "successVariable" "onSuccess" value)
    pure (.leaveWith "success" value)
  | messages =>
    Session.remember (conclude config "errorVariable" "onFailure" (.list messages))
    pure (.leaveWith "failure" (.list messages))

end Nodes
end RequestFlow
