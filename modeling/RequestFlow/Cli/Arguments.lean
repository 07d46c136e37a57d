import RequestFlow.Assoc
import RequestFlow.Text.CharSet
import RequestFlow.Text.Digit

/-!
# Command lines

A command line is made of options and words. A long option may be shortened as long as only one
option begins so, and its value follows it or stands after an equals sign. What begins with a dash
and is neither an option, nor a negative number, nor contains a blank, is an option nobody knows.
After a divider of two dashes everything is a word. A command line is refused because it is misused,
or because it asks for help.
-/

namespace RequestFlow
namespace Cli

/-- Why a command line is not carried out. -/
inductive Refusal
  | help
  | misuse
  deriving DecidableEq, Repr

/-- An option, and whether it takes a value, which then has to be acceptable. -/
structure LongOption where
  /-- The name, with its hyphens. -/
  name : String
  /-- Whether a value follows. -/
  takesValue : Bool := true
  /-- The values that are acceptable. -/
  accepts : String → Bool := fun _ => true

/-- What a part of the command line may hold: options, and a word that is all there is to it or
takes everything after it along. -/
structure Grammar where
  /-- The options that are known. -/
  options : List LongOption
  /-- Whether the word takes everything after it along. -/
  wordTakesRest : Bool := false

/-- What an argument is. -/
inductive Mark
  | word
  | divider
  | known (option : LongOption) (value : Option String)
  | helpWanted
  | shortHelp (tail : List Char)
  | misused
  | unknown

/-- What has been read: the word with what it takes along, the values of options, the options
without values, and whether anything was there that nobody knows. -/
structure Reading where
  /-- The word, with what it takes along. -/
  word : Option (String × List String) := none
  /-- The values of options. -/
  values : Assoc String String := []
  /-- The options without values that were given. -/
  switches : List String := []
  /-- Whether anything was there that nobody knows. -/
  surplus : Bool := false

/-- A text before its first equals sign, and what stands after it. -/
def splitValue (argument : String) : String × Option String :=
  match argument.toList.span (· ≠ '=') with
  | (name, _ :: value) => (String.ofList name, some (String.ofList value))
  | (_, []) => (argument, none)

/-- The digits at the front dropped. -/
def dropDigits (input : List Char) : List Char :=
  input.dropWhile Text.isDigit

/-- Whether nothing is left but a line break. -/
def isEnd (input : List Char) : Bool :=
  input == [] || input == ['\n']

/-- Whether a text is a negative number in plain digits. -/
def isNegativeNumber : List Char → Bool
  | '-' :: number =>
    let rest := dropDigits number
    (rest.length < number.length && isEnd rest) ||
      match rest with
      | '.' :: places => (dropDigits places).length < places.length && isEnd (dropDigits places)
      | _ => false
  | _ => false

namespace Grammar

/-- The mark of a known option or of the option for help. -/
def markOf (value : Option String) : Option LongOption → Mark
  | some option => .known option value
  | none => if value.isSome then .misused else .helpWanted

/-- The option of exactly this name; nothing in its place stands for help. -/
def named? (grammar : Grammar) (name : String) : Option (Option LongOption) :=
  if name = "--help" then some none else (grammar.options.find? (·.name == name)).map some

/-- The options that begin like this; nothing in the place of one stands for help. -/
def beginningWith (grammar : Grammar) (start : String) : List (Option LongOption) :=
  (if "--help".startsWith start then [none] else []) ++
    (grammar.options.filter (·.name.startsWith start)).map some

/-- The mark of an argument that begins with a dash and is no option by its full name. -/
def markShortened (grammar : Grammar) (argument : String) : Except Refusal Mark :=
  let otherwise : Mark :=
    if isNegativeNumber argument.toList || argument.contains ' ' then .word else .unknown
  match argument.toList with
  | '-' :: '-' :: _ =>
    let (start, value) := splitValue argument
    match grammar.beginningWith start with
    | [] => .ok otherwise
    | [option] => .ok (markOf value option)
    | _ => .error .misuse
  | '-' :: 'h' :: tail => .ok (.shortHelp tail)
  | _ => .ok otherwise

/-- The mark of an argument before any divider. -/
def mark (grammar : Grammar) (argument : String) : Except Refusal Mark :=
  if argument = "--" then .ok .divider
  else if argument = "-" then .ok .word
  else if argument = "-h" then .ok .helpWanted
  else if !argument.startsWith "-" then .ok .word
  else
    match grammar.named? argument with
    | some option => .ok (markOf none option)
    | none =>
      let (name, value) := splitValue argument
      match (if value.isSome then grammar.named? name else none) with
      | some option => .ok (markOf value option)
      | none =>
        if value.isSome && name = "-h" then .ok .misused else grammar.markShortened argument

/-- The arguments with their marks. -/
def marked (grammar : Grammar) : List String → Except Refusal (List (String × Mark))
  | [] => .ok []
  | argument :: rest => do
    match ← grammar.mark argument with
    | .divider => .ok ((argument, .divider) :: rest.map (·, .word))
    | mark => do
      let others ← grammar.marked rest
      .ok ((argument, mark) :: others)

end Grammar

/-- What becomes of letters after the short option for help: more of the same, or an equals sign. -/
def refuseShort : List Char → Refusal
  | '-' :: _ => .misuse
  | 'h' :: '=' :: _ => .misuse
  | 'h' :: rest => refuseShort rest
  | _ => .help

/-- The reading with a value for an option. -/
def Reading.set (reading : Reading) (option : LongOption) (value : String) :
    Except Refusal Reading :=
  if option.accepts value then
    .ok { reading with values := reading.values.put option.name value }
  else .error .misuse

/-- Read marked arguments one after another. -/
def Grammar.read (grammar : Grammar) (reading : Reading) :
    List (String × Mark) → Except Refusal Reading
  | [] => .ok reading
  | (_, .helpWanted) :: _ => .error .help
  | (_, .misused) :: _ => .error .misuse
  | (_, .shortHelp tail) :: _ => .error (refuseShort tail)
  | (_, .unknown) :: rest => grammar.read { reading with surplus := true } rest
  | (_, .known option (some value)) :: rest =>
    if option.takesValue then do
      let reading ← reading.set option value
      grammar.read reading rest
    else .error .misuse
  | (_, .known option none) :: rest =>
    if option.takesValue then
      match rest with
      | (value, .word) :: others => do
        let reading ← reading.set option value
        grammar.read reading others
      | _ => .error .misuse
    else grammar.read { reading with switches := reading.switches ++ [option.name] } rest
  | (divider, .divider) :: (word, .word) :: rest =>
    if reading.word.isSome then .ok { reading with surplus := true }
    else if grammar.wordTakesRest then
      .ok { reading with word := some (divider, word :: rest.map (·.1)) }
    else .ok { reading with word := some (word, []), surplus := reading.surplus || !rest.isEmpty }
  | (_, .divider) :: _ => .ok { reading with surplus := true }
  | (word, .word) :: rest =>
    if reading.word.isSome then grammar.read { reading with surplus := true } rest
    else if grammar.wordTakesRest then .ok { reading with word := some (word, rest.map (·.1)) }
    else
      match rest with
      | (_, .divider) :: others =>
        .ok { reading with word := some (word, []), surplus := reading.surplus || !others.isEmpty }
      | _ => grammar.read { reading with word := some (word, []) } rest

/-- Read arguments by a grammar. -/
def Grammar.readArguments (grammar : Grammar) (arguments : List String) :
    Except Refusal Reading := do
  let marked ← grammar.marked arguments
  grammar.read {} marked

end Cli
end RequestFlow
