import RequestFlow.Cli.Run
import RequestFlow.Email.Address

/-!
# The program

The outermost layer: what the command line needs is read from the machine, the command is carried
out, and its report is printed. The nodes are the built-in ones.
-/

namespace RequestFlow
namespace Program

/-- The environment variables that are heeded. -/
def heededVariables : List String :=
  ["LOWCODE_SHOW_EXCEPTIONS", "SHOW_EXCEPTIONS", "LOWCODE_MANIFEST", "LOG_FORMAT", "ENV"]

/-- The bytes of a file, if there is one. -/
def content? (path : String) : IO (Option (List UInt8)) := do
  let place := (← IO.currentDir) / path
  if (← place.pathExists) && !(← place.isDir) then
    return some (← IO.FS.readBinFile place).toList
  return none

/-- The settings file and the environment. -/
def settingsSource : IO SettingsSource := do
  let home := (← IO.getEnv "HOME").getD ""
  let file ← content? (home ++ "/.lowcode/configuration.json")
  let set ← heededVariables.filterMapM fun name => do
    return (← IO.getEnv name).map (name, ·)
  return { file, environment := set }

/-- A tree with the file at a path, or with the directory and the files in it. -/
def withPath (tree : FileTree) (path : String) : IO FileTree := do
  let place := (← IO.currentDir) / path
  let location := Location.ofText path
  if ← place.isDir then
    let mut filled := { tree with directories := tree.place location :: tree.directories }
    for entry in ← place.readDir do
      let inside := location.child entry.fileName
      if ← entry.path.isDir then
        filled := { filled with directories := tree.place inside :: filled.directories }
      else if entry.fileName.endsWith ".json" then
        filled := filled.write inside (← IO.FS.readBinFile entry.path).toList
    return filled
  match ← content? path with
  | some content => return tree.write location content
  | none => return tree

/-- The files that a command needs: its source, and the manifest if the settings name one. -/
def filesFor (source : SettingsSource) (command : Cli.Command) : IO FileTree := do
  let workingDirectory := Location.ofText (← IO.currentDir).toString
  let tree ← withPath { workingDirectory } command.source
  match source.manifest with
  | .ok (.text path) => withPath tree path
  | _ => return tree

/-- Where the Unicode table of the machine is: a line for each character, with its code, its name
and more between semicolons. -/
def unicodeTable : String :=
  "/usr/share/unicode/UnicodeData.txt"

/-- The character that a line of the Unicode table names. Names in angle brackets are none. -/
def namedCharacter? (line : String) : Option (String × Char) :=
  match line.splitOn ";" with
  | code :: name :: _ =>
    if name.startsWith "<" then none
    else some (name, Char.ofNat (Text.hexNumber code.toList))
  | _ => none

/-- What the program supports rules with: no predicates, the addresses of mailboxes, and the names
in the Unicode table, whose case does not matter. -/
def support : IO Rules.Support := do
  let table := (← content? unicodeTable).bind fun content => (FileTree.textOf content).toOption
  let named : Assoc String Char := ((table.getD "").splitOn "\n").filterMap namedCharacter?
  return {
    isAddress := fun content => Email.isAddress content.toList
    names := fun name => named.get? name.toUpper }

/-- The host of the program: files, no packages, and the built-in nodes. -/
def host (files : FileTree) (support : Rules.Support) : Host Unit Builtin where
  files := files
  load := fun _ _ => pure none
  perform := Builtin.perform support

/-- How the program is used. -/
def usage : String :=
  "usage: lowcode [-h] [--log-level LEVEL] [--show-exceptions] serve|run|routes ...\n"

/-- Print the end of a command, and say with which number the program ends. -/
def conclude : Except Fault (Cli.Ending Unit Builtin) → IO UInt32
  | .ok (.refused .help) => do
    IO.print usage
    return 0
  | .ok (.refused .misuse) => do
    IO.eprint usage
    return 2
  | .ok (.report status output) => do
    IO.print output
    return status.toUInt32
  | .ok .bodyRejected => do
    IO.eprintln "Invalid --body JSON"
    return 1
  | .ok (.serving _ address socketNumber) => do
    IO.eprintln
      ("No listener for " ++ address.display ++ ":" ++ String.ofList (intText socketNumber))
    return 1
  | .error fault => do
    IO.eprintln (fault.sort ++ ": " ++ fault.message)
    return 1

/-- Carry out a command line. -/
def run (arguments : List String) : IO UInt32 := do
  match Cli.Command.read arguments with
  | .error refusal => conclude (.ok (.refused refusal))
  | .ok command =>
    let source ← settingsSource
    let files ← filesFor source command
    let registry : Registry Unit Builtin := Registry.withBuiltins id { outside := () }
    conclude (Cli.carryOut (host files (← support)) registry source command)

end Program
end RequestFlow

/-- The program on its command line. -/
def main (arguments : List String) : IO UInt32 :=
  RequestFlow.Program.run arguments
