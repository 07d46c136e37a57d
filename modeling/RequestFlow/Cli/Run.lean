import RequestFlow.Cli.Command
import RequestFlow.Engine.Handle
import RequestFlow.Json.Printer
import RequestFlow.Logging.Record
import RequestFlow.Logging.Setup

/-!
# Carrying out commands

Every command first reads the settings, sets up the log, and loads the controllers into an engine,
which is then sealed. Running a request prints the response and ends with a failure if the response
does; listing routes prints each endpoint with the node at which its flow starts.
-/

namespace RequestFlow
namespace Cli

variable {ν η : Type}

/-- How a command ends: refused, with a report to print, refusing the body of a request, or with an
engine to serve at an address and a socket number. -/
inductive Ending (ν η : Type)
  | refused (refusal : Refusal)
  | report (status : Nat) (output : String)
  | bodyRejected
  | serving (engine : Engine ν η) (address : Value) (socketNumber : Int)

/-- The number with which a refused command ends. -/
def Refusal.status : Refusal → Nat
  | .help => 0
  | .misuse => 2

/-- The result of a transition from a state. -/
def resultFrom {σ α : Type} (state : σ) (transition : Transition σ α) : Except Fault (α × σ) :=
  match transition state with
  | (.ok result, reached) => .ok (result, reached)
  | (.error fault, _) => .error fault

/-- Load the controllers of a file or a directory, and seal the engine. -/
def loadSource (files : FileTree) (source : String) : Transition (Engine ν η) Unit := do
  let location := Location.ofText source
  if ← .ofExcept (files.isDirectory location) then
    let _ ← Engine.loadDirectory files location
    Engine.sealUp
  else
    let _ ← Engine.loadFile files location none
    Engine.sealUp

/-- The value of a text that is JSON; an empty text is null, and one that is malformed is
refused. -/
def bodyOf : Option String → Except Fault (Option Value)
  | none => .ok (some .null)
  | some content => if content = "" then .ok (some .null) else Json.embedded? content

/-- The name of the controller that serves a path, unless one is given. -/
def controllerFor (path : String) (given : Option String) : String :=
  (given.bind nonEmpty?).getD
    (((Route.firstSegment? path.toList).map String.ofList).getD "")

/-- The report on a response. -/
def responseReport (response : Response) : Except Fault (Ending ν η) := do
  let report := Value.record [("status", .int response.status), ("body", response.body)]
  let written ← Json.write Json.indented report
  pure (.report (if response.status < 400 then 0 else 1) (written ++ "\n"))

/-- Run one request and report on the response. -/
def runRequest (host : Host ν η) (engine : Engine ν η) (method path : String)
    (body controller : Option String) : Except Fault (Ending ν η) := do
  match ← bodyOf body with
  | none => pure .bodyRejected
  | some value =>
    let incoming : Incoming :=
      { controller := controllerFor path controller, method, path, body := value }
    let (response, _) ← resultFrom engine (Engine.handle host incoming)
    responseReport response

/-- The line for an endpoint of a graph. -/
def routeLine (graph : Graph) (endpoint : Endpoint) : String :=
  let start := ((graph.startNode? endpoint).bind nonEmpty?).getD "-"
  let path := (endpoint.path.bind nonEmpty?).getD "-"
  "  " ++ Log.padRight 7 (upperCase endpoint.method) ++ " " ++ Log.padRight 30 path ++ " → " ++
    start ++ "\n"

/-- The lines for the endpoints of a controller. -/
def routeLines (controller : String) (graph : Graph) : String :=
  controller ++ ":\n" ++ String.join (graph.endpoints.map (routeLine graph))

/-- Carry out an action with an engine. -/
def act (host : Host ν η) (engine : Engine ν η) : Action → Except Fault (Ending ν η)
  | .serve address socketNumber =>
    .ok (.serving engine (((address.bind nonEmpty?).map Value.text).getD engine.settings.host)
      (match socketNumber with
        | some number => if number = 0 then engine.settings.socketNumber else number
        | none => engine.settings.socketNumber))
  | .run method path body controller => runRequest host engine method path body controller
  | .routes =>
    .ok (.report 0 (String.join (engine.controllers.map fun entry => routeLines entry.1 entry.2)))

/-- Carry out a command, with the registry that an engine starts with. -/
def carryOut (host : Host ν η) (registry : Registry ν η) (source : SettingsSource)
    (command : Command) : Except Fault (Ending ν η) := do
  let read ← Settings.ofSource {} source
  let settings := { read with showsExceptions := read.showsExceptions || command.showsExceptions }
  let level := match command.logLevel.bind nonEmpty? with
    | some name => .text name
    | none => settings.logLevel
  let _ ← Log.configure source.environment level settings.logFormat
  let engine ← Engine.start settings registry
  let (_, engine) ← resultFrom engine (loadSource host.files command.source)
  act host engine command.action

/-- Carry out a command line. -/
def runArguments (host : Host ν η) (registry : Registry ν η) (source : SettingsSource)
    (arguments : List String) : Except Fault (Ending ν η) :=
  match Command.read arguments with
  | .error refusal => .ok (.refused refusal)
  | .ok command => carryOut host registry source command

end Cli
end RequestFlow
