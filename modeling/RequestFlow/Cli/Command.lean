import RequestFlow.Cli.Arguments
import RequestFlow.Numeral.Reading

/-!
# Commands

The command line names one of three commands: serving controllers, running one request, and listing
the routes of controllers. Options before the command are for all of them.
-/

namespace RequestFlow
namespace Cli

/-- What a command does with the controllers of a file or a directory. -/
inductive Action
  | serve (host : Option String) (socketNumber : Option Int)
  | run (method path : String) (body controller : Option String)
  | routes
  deriving Repr

/-- A command line that has been understood. -/
structure Command where
  /-- The least level that is logged, if it is given. -/
  logLevel : Option String
  /-- Whether clients are told what went wrong. -/
  showsExceptions : Bool
  /-- The file or directory that holds the controllers. -/
  source : String
  /-- What is done with them. -/
  action : Action
  deriving Repr

/-- Whether a text is a whole number, as the number of a socket has to be. -/
def isWholeNumber (content : String) : Bool :=
  (Numeral.readInteger content.toList).isOk

/-- What may stand before the command. -/
def mainGrammar : Grammar where
  options := [{ name := "--log-level" }, { name := "--show-exceptions", takesValue := false }]
  wordTakesRest := true

/-- What may follow the command for serving. -/
def serveGrammar : Grammar where
  options := [{ name := "--host" }, { name := "--port", accepts := isWholeNumber }]

/-- What may follow the command for running a request. -/
def runGrammar : Grammar where
  options := [{ name := "--method" }, { name := "--path" }, { name := "--body" },
    { name := "--controller" }]

/-- What may follow the command for listing routes. -/
def routesGrammar : Grammar where
  options := []

/-- The word of a reading; there has to be one. -/
def theWord (reading : Reading) : Except Refusal String :=
  match reading.word with
  | some (word, _) => .ok word
  | none => .error .misuse

/-- The source and the action of a command by its name, and whether anything is left over. -/
def readAction (name : String) (arguments : List String) :
    Except Refusal (String × Action × Bool) := do
  match name with
  | "serve" =>
    let reading ← serveGrammar.readArguments arguments
    let source ← theWord reading
    let socketNumber := (reading.values.get? "--port").bind fun number =>
      (Numeral.readInteger number.toList).toOption
    .ok (source, .serve (reading.values.get? "--host") socketNumber, reading.surplus)
  | "run" =>
    let reading ← runGrammar.readArguments arguments
    let source ← theWord reading
    match reading.values.get? "--path" with
    | none => .error .misuse
    | some path =>
      let method := (reading.values.get? "--method").getD "GET"
      let action := .run method path (reading.values.get? "--body")
        (reading.values.get? "--controller")
      .ok (source, action, reading.surplus)
  | "routes" =>
    let reading ← routesGrammar.readArguments arguments
    let source ← theWord reading
    .ok (source, .routes, reading.surplus)
  | _ => .error .misuse

/-- The command that a command line names. -/
def Command.read (arguments : List String) : Except Refusal Command := do
  let reading ← mainGrammar.readArguments arguments
  match reading.word with
  | none => .error .misuse
  | some (name, rest) =>
    let (source, action, surplus) ← readAction name rest
    if reading.surplus || surplus then .error .misuse
    else
      .ok { logLevel := reading.values.get? "--log-level"
            showsExceptions := reading.switches.contains "--show-exceptions"
            source
            action }

end Cli
end RequestFlow
