import RequestFlow.Graph.Entry
import RequestFlow.Fault
import RequestFlow.Assoc

/-!
# Setting up the log

The log has a least level and a way in which lines are written. The level is given by name in any
case. Lines are JSON if that is asked for, and if nothing is asked for and the environment is one of
production or asks for JSON.
-/

namespace RequestFlow
namespace Log

/-- How much is logged: the least level that is written. -/
inductive Level
  | everything
  | debug
  | info
  | warning
  | error
  | critical
  deriving DecidableEq, Repr

/-- How lines are written. -/
inductive LineFormat
  | structured
  | readable
  deriving DecidableEq, Repr

/-- What the log goes by. -/
structure Setup where
  /-- The least level that is written. -/
  level : Level
  /-- How lines are written. -/
  format : LineFormat
  deriving DecidableEq, Repr

/-- The name of a level. -/
def Level.name : Level → String
  | .everything => "NOTSET"
  | .debug => "DEBUG"
  | .info => "INFO"
  | .warning => "WARNING"
  | .error => "ERROR"
  | .critical => "CRITICAL"

/-- The level of a name in upper case. Two levels have a second name. -/
def Level.ofName? : String → Option Level
  | "NOTSET" => some .everything
  | "DEBUG" => some .debug
  | "INFO" => some .info
  | "WARNING" | "WARN" => some .warning
  | "ERROR" => some .error
  | "CRITICAL" | "FATAL" => some .critical
  | _ => none

/-- The level that a setting names. -/
def levelOf : Value → Except Fault Level
  | .text name =>
    match Level.ofName? (upperCase name) with
    | some level => .ok level
    | none => .error (.unknownLevel (upperCase name))
  | value => .error (.levelNotText value.kind)

/-- An environment variable in lower case, or what it is without one. -/
def loweredVariable (environment : Assoc String String) (name otherwise : String) : String :=
  lowerCase ((environment.get? name).getD otherwise)

/-- The way lines are written where the environment decides. -/
def formatByEnvironment (environment : Assoc String String) : LineFormat :=
  if loweredVariable environment "LOG_FORMAT" "" = "json" ∨
      loweredVariable environment "ENV" "development" = "production" then .structured
  else .readable

/-- The way lines are written that a setting asks for. -/
def formatOf (environment : Assoc String String) : Value → LineFormat
  | .text "auto" => formatByEnvironment environment
  | .text "json" => .structured
  | _ => .readable

/-- Set up the log by a level and a format. -/
def configure (environment : Assoc String String) (level format : Value) : Except Fault Setup := do
  let level ← levelOf level
  pure { level, format := formatOf environment format }

end Log
end RequestFlow
