import RequestFlow.Files.Content
import RequestFlow.Graph.Entry

/-!
# Settings

Settings come from a settings file and from environment variables, which are heeded first. A
settings file that is missing or malformed sets nothing; parts of it that should be objects and are
not, and numbers that cannot be read, are faults of the setting that is asked for.
-/

namespace RequestFlow

/-- Where settings come from. -/
structure SettingsSource where
  /-- The bytes of the settings file, if there is one. -/
  file : Option (List UInt8) := none
  /-- The environment variables that are set. -/
  environment : Assoc String String := []

/-- What an engine, its server and its log go by. -/
structure Settings where
  /-- Whether clients are told what went wrong. -/
  showsExceptions : Bool := false
  /-- The path of the manifest, or null. -/
  manifest : Value := .null
  /-- The limit on nested walks. -/
  depthLimit : Int := 32
  /-- The address that the server listens at. -/
  host : Value := .text "127.0.0.1"
  /-- The number of the socket that it listens at. -/
  socketNumber : Int := 8080
  /-- The least level that is logged. -/
  logLevel : Value := .text "INFO"
  /-- How log lines are written. -/
  logFormat : Value := .text "auto"

/-- Settings that are given and not looked up. -/
structure GivenSettings where
  /-- Whether clients are told what went wrong. -/
  showsExceptions : Option Bool := none
  /-- The path of the manifest. -/
  manifest : Option Value := none
  /-- The limit on nested walks. -/
  depthLimit : Option Int := none

namespace SettingsSource

/-- The value in the settings file. -/
def document (source : SettingsSource) : Except Fault Value :=
  match source.file with
  | none => .ok (.object [])
  | some content =>
    (FileTree.jsonOf content).map fun value => value.getD (.object [])

/-- A member of a value that has to be an object. -/
def member (name : String) (otherwise : Value) : Value → Except Fault Value
  | .object fields => .ok ((Assoc.get? (.text name) fields).getD otherwise)
  | value => .error (.noMember value.kind "get")

/-- A member of the settings file. -/
def setting (source : SettingsSource) (name : String) (otherwise : Value) : Except Fault Value := do
  member name otherwise (← source.document)

/-- A member of a part of the settings file. -/
def partSetting (source : SettingsSource) (part name : String) (otherwise : Value) :
    Except Fault Value := do
  member name otherwise (← source.setting part (.object []))

/-- The words that switch something on. -/
def switchWords : List String :=
  ["1", "true", "yes", "on"]

/-- Whether a text switches something on, blanks and case aside. -/
def switchesOn (content : String) : Bool :=
  switchWords.contains (lowerCase (String.ofList (Text.trim content.toList)))

/-- The first of some environment variables that is set, read as a switch. -/
def switch? (source : SettingsSource) (names : List String) : Option Bool :=
  (names.findSome? source.environment.get?).map switchesOn

/-- Whether responses tell what went wrong inside. -/
def showsExceptions (source : SettingsSource) : Except Fault Bool :=
  match source.switch? ["LOWCODE_SHOW_EXCEPTIONS", "SHOW_EXCEPTIONS"] with
  | some flag => .ok flag
  | none => (source.setting "show_exceptions" (.bool false)).map Value.isTruthy

/-- The path of the manifest. -/
def manifest (source : SettingsSource) : Except Fault Value :=
  match (source.environment.get? "LOWCODE_MANIFEST").bind nonEmpty? with
  | some path => .ok (.text path)
  | none => source.setting "manifest_path" .null

/-- How deep walks may be nested. -/
def depthLimit (source : SettingsSource) : Except Fault Int := do
  (← source.setting "max_subflow_depth" (.int 32)).toInteger

/-- The address to listen on. -/
def host (source : SettingsSource) : Except Fault Value :=
  source.partSetting "server" "host" (.text "127.0.0.1")

/-- The number of the socket to listen on. -/
def socketNumber (source : SettingsSource) : Except Fault Int := do
  (← source.partSetting "server" "port" (.int 8080)).toInteger

/-- The least level of the log lines that are written. -/
def logLevel (source : SettingsSource) : Except Fault Value :=
  source.partSetting "logging" "level" (.text "INFO")

/-- The format of log lines. -/
def logFormat (source : SettingsSource) : Except Fault Value :=
  source.partSetting "logging" "format" (.text "auto")

end SettingsSource

/-- A setting that is given, or else looked up. -/
def givenOr {α : Type} (given : Option α) (lookup : Except Fault α) : Except Fault α :=
  match given with
  | some value => .ok value
  | none => lookup

/-- All settings; what is given is not looked up. -/
def Settings.ofSource (given : GivenSettings) (source : SettingsSource) :
    Except Fault Settings := do
  let showsExceptions ← givenOr given.showsExceptions source.showsExceptions
  let manifest ← givenOr given.manifest source.manifest
  let depthLimit ← givenOr given.depthLimit source.depthLimit
  let host ← source.host
  let socketNumber ← source.socketNumber
  let logLevel ← source.logLevel
  let logFormat ← source.logFormat
  pure { showsExceptions, manifest, depthLimit, host, socketNumber, logLevel, logFormat }

end RequestFlow
