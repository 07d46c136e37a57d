import RequestFlow.Pattern.Expression
import RequestFlow.Numeral.Reading
import RequestFlow.Text.Identifier

/-!
# Reading regular expressions

A pattern is cut into tokens, a token being a character or a backslash with the character after it,
and the tokens are read by descent through alternatives, sequences and groups. Most patterns that
cannot be read are malformed; a few are refused for a reason of their own.
-/

namespace RequestFlow
namespace Pattern

open Text

/-- Why a pattern is refused. -/
inductive Rejection
  | malformed
  | codeTooLarge
  | repetitionTooLarge
  | tooManyDigits (count : Nat)
  | conflictingAlphabets
  deriving DecidableEq, Repr

/-- A token of a pattern. -/
inductive Token
  | plain (character : Char)
  | escaped (character : Char)
  | dangling
  deriving DecidableEq, Repr

/-- Cut a pattern into tokens. -/
def tokens : List Char → List Token
  | '\\' :: character :: rest => .escaped character :: tokens rest
  | ['\\'] => [.dangling]
  | character :: rest => .plain character :: tokens rest
  | [] => []

/-- A group that has been opened, and its width once it has been closed. -/
structure Group where
  /-- The name, if it has one. -/
  name : Option (List Char)
  /-- The width, once the group is closed. -/
  width : Option Width
  deriving Repr

/-- The characters by their names in the Unicode database. A pattern may name a character. -/
abbrev CharacterNames := String → Option Char

/-- The state of reading. -/
structure Scan where
  /-- The tokens that are left. -/
  rest : List Token
  /-- The options of the whole pattern. -/
  options : Options
  /-- The groups opened so far. -/
  groups : List Group
  /-- The number of groups at the outermost lookbehind around the position. -/
  behind : Option Nat
  /-- The group numbers that conditions asked for. -/
  conditions : List Nat
  /-- The characters that can be named. -/
  names : CharacterNames

/-- A step of reading. -/
abbrev Read := StateT Scan (Except Rejection)

namespace Read

/-- Refuse the pattern as malformed. -/
def malformed {α : Type} : Read α :=
  throw .malformed

/-- The next token, left where it is. A backslash at the end of the pattern is refused. -/
def peek : Read (Option Token) := do
  match (← get).rest with
  | .dangling :: _ => malformed
  | token :: _ => pure (some token)
  | [] => pure none

/-- Take the next token. The one after it is looked at as well, and so a backslash at the end of the
pattern is refused before anything is made of what stands in front of it. -/
def next : Read (Option Token) := do
  let token ← peek
  modify fun scan => { scan with rest := scan.rest.tail }
  let _ ← peek
  pure token

/-- Take the next token if it is a given character. -/
def accept (character : Char) : Read Bool := do
  if (← peek) == some (.plain character) then
    let _ ← next
    pure true
  else pure false

/-- Take the next token, which has to be a given character. -/
def expect (character : Char) : Read Unit := do
  if ← accept character then pure () else malformed

/-- Take characters that satisfy a test, so many at most. -/
def takeUpTo (test : Char → Bool) : Nat → Read (List Char)
  | 0 => pure []
  | count + 1 => do
    match ← peek with
    | some (.plain character) =>
      if test character then
        let _ ← next
        let others ← takeUpTo test count
        pure (character :: others)
      else pure []
    | _ => pure []

/-- Take all characters that satisfy a test. -/
def takeAll (test : Char → Bool) : Read (List Char) := do
  takeUpTo test (← get).rest.length

/-- The characters before a terminator and the tokens after it. -/
def splitName? (terminator : Char) : List Token → Option (List Char × List Token)
  | .plain character :: rest =>
    if character = terminator then some ([], rest)
    else (splitName? terminator rest).map fun found => (character :: found.1, found.2)
  | .escaped character :: rest =>
    (splitName? terminator rest).map fun found => ('\\' :: character :: found.1, found.2)
  | _ => none

/-- Take a name and its terminator. -/
def takeName (terminator : Char) : Read (List Char) := do
  match splitName? terminator (← get).rest with
  | some (first :: others, rest) =>
    modify fun scan => { scan with rest }
    pure (first :: others)
  | _ => malformed

/-- Take a number of hexadecimal digits, all of which have to be there. -/
def takeHex (count : Nat) : Read (List Char) := do
  let digits ← takeUpTo isHexDigit count
  if digits.length = count then pure digits else malformed

end Read

/-! ## Escapes -/

/-- A digit of base eight. -/
def isOctal (character : Char) : Bool :=
  '0' ≤ character && character ≤ '7'

/-- The number that digits of base eight denote. -/
def octalNumber (digits : List Char) : Nat :=
  digits.foldl (fun value digit => 8 * value + (digit.toNat - '0'.toNat)) 0

/-- The code that a letter stands for after a backslash. -/
def controlCode? (letter : Char) : Option Nat :=
  [('a', 7), ('b', 8), ('t', 9), ('n', 10), ('v', 11), ('f', 12), ('r', 13),
    ('\\', 92)].lookup letter

/-- The class that a letter stands for after a backslash. -/
def classOf? (letter : Char) : Option Element :=
  [('d', Element.category .digit false), ('D', .category .digit true),
    ('s', .category .space false), ('S', .category .space true),
    ('w', .category .word false), ('W', .category .word true)].lookup letter

/-- The condition that a letter stands for after a backslash. -/
def anchorOf? (letter : Char) : Option Anchor :=
  [('A', Anchor.textStart), ('Z', .textEnd), ('b', .boundary), ('B', .noBoundary)].lookup letter

/-- The number of hexadecimal digits after a letter that introduces a code. -/
def hexLength? (letter : Char) : Option Nat :=
  [('x', 2), ('u', 4), ('U', 8)].lookup letter

/-- The least number that is too great for a signed word of four bytes. -/
def wordLimit : Nat := 0x80000000

/-- The code that digits of base sixteen denote. One that does not fit into a word is refused for
that, before it is known to be no code. -/
def codeOf (digits : List Char) : Read Nat :=
  if wordLimit ≤ hexNumber digits then throw .codeTooLarge
  else if hexNumber digits ≤ 0x10FFFF then pure (hexNumber digits)
  else Read.malformed

/-- The code that follows a letter which introduces one. -/
def readCode (digits : Nat) : Read Nat := do
  codeOf (← Read.takeHex digits)

/-- The code of three digits of base eight, which has to fit into eight bits. -/
def octalCode (digits : List Char) : Read Nat :=
  if octalNumber digits ≤ 0o377 then pure (octalNumber digits) else Read.malformed

/-- A character that needs no meaning after a backslash: not a letter or a digit of ASCII. -/
def plainCode (character : Char) : Read Nat :=
  if character.isAlphanum then Read.malformed else pure character.toNat

/-- The code of the character whose name follows between braces. -/
def readNamed : Read Nat := do
  Read.expect '\x7b'
  let name ← Read.takeName '\x7d'
  match (← get).names (String.ofList name) with
  | some character => pure character.toNat
  | none => Read.malformed

/-- What an escape inside a class stands for. -/
def readClassEscape (letter : Char) : Read Element := do
  match controlCode? letter, classOf? letter, hexLength? letter with
  | some code, _, _ => pure (.literal code)
  | _, some element, _ => pure element
  | _, _, some digits => pure (.literal (← readCode digits))
  | _, _, _ =>
    if letter = 'N' then pure (.literal (← readNamed))
    else if isOctal letter then
      let digits ← Read.takeUpTo isOctal 2
      pure (.literal (← octalCode (letter :: digits)))
    else pure (.literal (← plainCode letter))

/-- Whether a group has been opened and closed. -/
def Scan.isClosed (scan : Scan) (number : Nat) : Bool :=
  match number with
  | 0 => false
  | index + 1 => (scan.groups[index]?.bind (·.width)).isSome

/-- Inside a lookbehind only groups closed before it may be referred to. -/
def checkBehind (number : Nat) : Read Unit := do
  let scan ← get
  match scan.behind with
  | none => pure ()
  | some opened => if scan.isClosed number && number ≤ opened then pure () else Read.malformed

/-- A reference to a group, which has to be closed. -/
def referTo (number : Nat) : Read Expression := do
  if (← get).isClosed number then
    checkBehind number
    pure (.reference number)
  else Read.malformed

/-- Up to three digits after a backslash: a code if there are three of base eight, and otherwise the
number of a group. -/
def readDigits (first : Char) : Read Expression := do
  match ← Read.takeUpTo Char.isDigit 1 with
  | [second] =>
    let third ← if isOctal first && isOctal second then Read.takeUpTo isOctal 1 else pure []
    match third with
    | [third] => pure (.single (.literal (← octalCode [first, second, third])))
    | _ => referTo (Numeral.digitsValue [first, second])
  | _ => referTo (Numeral.digitsValue [first])

/-- What an escape outside a class stands for. -/
def readEscape (letter : Char) : Read Expression := do
  match anchorOf? letter, classOf? letter, controlCode? letter, hexLength? letter with
  | some anchor, _, _, _ => pure (.anchor anchor)
  | _, some element, _, _ => pure (.single (.oneOf false [element]))
  | _, _, some code, _ => pure (.single (.literal code))
  | _, _, _, some digits => pure (.single (.literal (← readCode digits)))
  | _, _, _, _ =>
    if letter = 'N' then pure (.single (.literal (← readNamed)))
    else if letter = '0' then
      let digits ← Read.takeUpTo isOctal 2
      pure (.single (.literal (octalNumber digits)))
    else if letter.isDigit then readDigits letter
    else pure (.single (.literal (← plainCode letter)))

/-! ## Classes and bounds -/

/-- What a token inside a class stands for. -/
def readElement : Token → Read Element
  | .plain character => pure (.literal character.toNat)
  | .escaped letter => readClassEscape letter
  | .dangling => Read.malformed

/-- A range between two parts of a class, both of which have to be literals in order. -/
def rangeBetween : Element → Element → Read Element
  | .literal first, .literal last =>
    if first ≤ last then pure (.range first last) else Read.malformed
  | _, _ => Read.malformed

/-- The parts of a class up to the closing bracket, which is a literal at the front. The number
bounds the parts. -/
def readElements : Nat → (atFront : Bool) → Read (List Element)
  | 0, _ => Read.malformed
  | fuel + 1, atFront => do
    match ← Read.next with
    | none => Read.malformed
    | some token =>
      if token == .plain ']' && !atFront then pure []
      else
        let first ← readElement token
        if ← Read.accept '-' then
          match ← Read.next with
          | none => Read.malformed
          | some token =>
            if token == .plain ']' then pure [first, .literal '-'.toNat]
            else
              let range ← rangeBetween first (← readElement token)
              let others ← readElements fuel false
              pure (range :: others)
        else
          let others ← readElements fuel false
          pure (first :: others)

/-- A class after its opening bracket. -/
def readClass : Read Expression := do
  let negated ← Read.accept '^'
  let elements ← readElements ((← get).rest.length + 1) true
  pure (.single (.oneOf negated elements.eraseDups))

/-- The greatest number of rounds that can be asked for. -/
def repetitionLimit : Nat := 4294967295

/-- The number of rounds that digits ask for. -/
def readRounds (digits : List Char) : Read Nat :=
  if Numeral.digitLimit < digits.length then throw (.tooManyDigits digits.length)
  else if repetitionLimit ≤ Numeral.digitsValue digits then throw .repetitionTooLarge
  else pure (Numeral.digitsValue digits)

/-- The bounds of a repetition after an opening brace; nothing if the brace stands for itself. -/
def readBounds : Read (Option (Nat × Option Nat)) := do
  let start := (← get).rest
  if (← Read.peek) == some (.plain '\x7d') then pure none
  else
    let low ← Read.takeAll Char.isDigit
    let ranged ← Read.accept ','
    let high ← if ranged then Read.takeAll Char.isDigit else pure low
    if ← Read.accept '\x7d' then
      let least ← readRounds low
      if high.isEmpty then pure (some (least, none))
      else
        let most ← readRounds high
        if most < least then Read.malformed else pure (some (least, some most))
    else
      modify fun scan => { scan with rest := start }
      pure none

/-- The bounds that a repetition sign stands for; nothing if the sign stands for itself. -/
def boundsOf (sign : Char) : Read (Option (Nat × Option Nat)) :=
  if sign = '?' then pure (some (0, some 1))
  else if sign = '*' then pure (some (0, none))
  else if sign = '+' then pure (some (1, none))
  else readBounds

/-- How a repetition chooses, by the sign after its bounds. -/
def readGreed : Read Greed := do
  if ← Read.accept '?' then pure .lazy
  else if ← Read.accept '+' then pure .possessive
  else pure .greedy

/-- Whether an expression can be repeated: neither a condition on a position nor a repetition. -/
def isRepeatable : Expression → Bool
  | .anchor _ => false
  | .repeated _ _ _ _ => false
  | _ => true

/-- The expressions read so far, latest first, after a repetition sign. -/
def readRepetition (sign : Char) (items : List Expression) : Read (List Expression) := do
  match ← boundsOf sign with
  | none => pure (.single (.literal sign.toNat) :: items)
  | some (least, most) =>
    match items with
    | [] => Read.malformed
    | last :: earlier =>
      if isRepeatable last then
        let greed ← readGreed
        pure (.repeated greed least most last :: earlier)
      else Read.malformed

/-! ## Options and names -/

/-- Options with the one that a letter stands for. -/
def addOption (options : Options) (letter : Char) : Read Options :=
  if letter = 'i' then pure { options with ignoreCase := true }
  else if letter = 'm' then pure { options with multiline := true }
  else if letter = 's' then pure { options with dotAll := true }
  else if letter = 'x' then pure { options with verbose := true }
  else if letter = 't' then pure { options with literalOnly := true }
  else if letter = 'a' ∧ !options.unicode then pure { options with ascii := true }
  else if letter = 'u' ∧ !options.ascii then pure { options with unicode := true }
  else Read.malformed

/-- Option letters up to a sign, and the sign. The number bounds the letters. -/
def readOptions (signs : List Char) : Nat → Options → Char → Read (Options × Char)
  | 0, _, _ => Read.malformed
  | fuel + 1, options, letter => do
    let options ← addOption options letter
    match ← Read.next with
    | some (.plain character) =>
      if character ∈ signs then pure (options, character)
      else readOptions signs fuel options character
    | _ => Read.malformed

/-- What stands before a closing parenthesis or colon: options for the whole pattern, or options to
add and to remove in a scope. -/
inductive OptionChange
  | global (added : Options)
  | scope (added removed : Options)

/-- Options to remove, up to the colon. -/
def readRemoved (added : Options) : Read OptionChange := do
  match ← Read.next with
  | some (.plain letter) =>
    let (removed, _) ← readOptions [':'] ((← get).rest.length + 1) {} letter
    if removed.ascii || removed.unicode || removed.literalOnly || added.overlap removed then
      Read.malformed
    else pure (.scope added removed)
  | _ => Read.malformed

/-- The change of options that begins with a letter or a minus sign. -/
def readChange (letter : Char) : Read OptionChange := do
  if letter = '-' then readRemoved {}
  else
    let (added, sign) ← readOptions [')', '-', ':'] ((← get).rest.length + 1) {} letter
    if sign = ')' then pure (.global added)
    else if added.literalOnly then Read.malformed
    else if sign = '-' then readRemoved added
    else pure (.scope added {})

/-- The number of the group with a name. -/
def Scan.numbered? (scan : Scan) (name : List Char) : Option Nat :=
  (scan.groups.findIdx? (·.name == some name)).map (· + 1)

/-- Open a group and give its number. -/
def openGroup (name : Option (List Char)) : Read Nat := do
  let scan ← get
  if name.isSome && scan.groups.any (·.name == name) then Read.malformed
  else
    modify fun scan => { scan with groups := scan.groups ++ [{ name, width := none }] }
    pure (scan.groups.length + 1)

/-- The width of a group. -/
def Scan.widthOf (scan : Scan) (number : Nat) : Width :=
  match number with
  | 0 => .zero
  | index + 1 => (scan.groups[index]?.bind (·.width)).getD .zero

/-- Close a group. -/
def closeGroup (number : Nat) (body : Expression) : Read Unit :=
  modify fun scan =>
    { scan with groups := scan.groups.modify (number - 1) fun group =>
        { group with width := some (body.width scan.widthOf) } }

/-- The group that a condition asks for, by name or by number. -/
def readCondition : Read Nat := do
  let name ← Read.takeName ')'
  let scan ← get
  if isIdentifier name then
    match scan.numbered? name with
    | some number => pure number
    | none => Read.malformed
  else
    match Numeral.readInteger name with
    | .ok number =>
      if 0 < number ∧ number < 1073741823 then
        modify fun scan => { scan with conditions := number.toNat :: scan.conditions }
        pure number.toNat
      else Read.malformed
    | .error _ => Read.malformed

/-- Skip a comment, up to its closing parenthesis. -/
def skipComment : Read Unit := do
  let rest := (← get).rest.dropWhile (· != .plain ')')
  match rest with
  | _ :: after => modify fun scan => { scan with rest := after }
  | [] => Read.malformed

/-- Whether a token is inside a line: neither the end of one nor a backslash at the end of the
pattern. -/
def isInLine (token : Token) : Bool :=
  token != .plain '\n' && token != .dangling

/-- Skip the rest of a line and its end. -/
def skipLine : Read Unit := do
  modify fun scan => { scan with rest := scan.rest.dropWhile isInLine }
  let _ ← Read.next
  pure ()

/-- Blanks that a verbose pattern may contain. -/
def isLayout (token : Token) : Bool :=
  match token with
  | .plain character => Numeral.isAsciiBlank character
  | _ => false

/-! ## Descent -/

/-- What stands between parentheses: an expression, or nothing but perhaps options of the
pattern. -/
inductive Bracketed
  | expression (expression : Expression)
  | nothing
  | options (added : Options)

mutual

/-- Alternatives. Only the first sequence of the whole pattern may change its options. -/
def readAlternatives : Nat → (verbose whole first : Bool) → Read Expression
  | 0, _, _, _ => Read.malformed
  | fuel + 1, verbose, whole, first => do
    let head ← readSequence fuel verbose (whole && first) []
    if ← Read.accept '|' then
      let scan ← get
      let verbose := if whole then scan.options.verbose else verbose
      let others ← readAlternatives fuel verbose whole false
      pure (.either head others)
    else pure head

/-- A sequence, after the given expressions, latest first. -/
def readSequence : Nat → (verbose first : Bool) → List Expression → Read Expression
  | 0, _, _, _ => Read.malformed
  | fuel + 1, verbose, first, items => do
    match ← Read.peek with
    | none | some (.plain '|') | some (.plain ')') => pure (.sequence items.reverse)
    | some token =>
      let _ ← Read.next
      if verbose && isLayout token then readSequence fuel verbose first items
      else if verbose && token == .plain '#' then
        skipLine
        readSequence fuel verbose first items
      else
        match token with
        | .dangling => Read.malformed
        | .escaped letter =>
          let item ← readEscape letter
          readSequence fuel verbose first (item :: items)
        | .plain character =>
          if character = '[' then
            let item ← readClass
            readSequence fuel verbose first (item :: items)
          else if character ∈ ['*', '+', '?', '\x7b'] then
            let items ← readRepetition character items
            readSequence fuel verbose first items
          else if character = '(' then
            match ← readBracketed fuel verbose with
            | .expression item => readSequence fuel verbose first (item :: items)
            | .nothing => readSequence fuel verbose first items
            | .options added =>
              if first && items.isEmpty then
                modify fun scan => { scan with options := scan.options.join added }
                readSequence fuel (← get).options.verbose first items
              else Read.malformed
          else
            let item : Expression :=
              if character = '.' then .single .any
              else if character = '^' then .anchor .lineStart
              else if character = '$' then .anchor .lineEnd
              else .single (.literal character.toNat)
            readSequence fuel verbose first (item :: items)

/-- What follows an opening parenthesis. -/
def readBracketed : Nat → (verbose : Bool) → Read Bracketed
  | 0, _ => Read.malformed
  | fuel + 1, verbose => do
    if ← Read.accept '?' then
      match ← Read.next with
      | some (.plain mark) =>
        if mark = 'P' then
          if ← Read.accept '<' then
            let name ← Read.takeName '>'
            if isIdentifier name then readCapture fuel verbose (some name) else Read.malformed
          else if ← Read.accept '=' then
            let name ← Read.takeName ')'
            match (← get).numbered? name with
            | some number => .expression <$> referTo number
            | none => Read.malformed
          else Read.malformed
        else if mark = ':' then readScope fuel verbose {} {}
        else if mark = '#' then
          skipComment
          pure .nothing
        else if mark = '=' then readAhead fuel verbose false
        else if mark = '!' then readAhead fuel verbose true
        else if mark = '<' then
          if ← Read.accept '=' then readBehind fuel verbose false
          else if ← Read.accept '!' then readBehind fuel verbose true
          else Read.malformed
        else if mark = '(' then
          let number ← readCondition
          checkBehind number
          let present ← readSequence fuel verbose false []
          let absent ← if ← Read.accept '|' then readSequence fuel verbose false [] else pure .empty
          Read.expect ')'
          pure (.expression (.conditional number present absent))
        else if mark = '>' then
          let body ← readAlternatives fuel verbose false false
          Read.expect ')'
          pure (.expression (.atomic body))
        else
          match ← readChange mark with
          | .global added => pure (.options added)
          | .scope added removed => readScope fuel verbose added removed
      | _ => Read.malformed
    else readCapture fuel verbose none

/-- A group whose text is remembered. -/
def readCapture : Nat → (verbose : Bool) → Option (List Char) → Read Bracketed
  | 0, _, _ => Read.malformed
  | fuel + 1, verbose, name => do
    let number ← openGroup name
    let body ← readAlternatives fuel verbose false false
    Read.expect ')'
    closeGroup number body
    pure (.expression (.group number body))

/-- A scope with options of its own. -/
def readScope : Nat → (verbose : Bool) → (added removed : Options) → Read Bracketed
  | 0, _, _, _ => Read.malformed
  | fuel + 1, verbose, added, removed => do
    let inside := (verbose || added.verbose) && !removed.verbose
    let body ← readAlternatives fuel inside false false
    Read.expect ')'
    pure (.expression (.scope added removed body))

/-- A condition on what follows. -/
def readAhead : Nat → (verbose negated : Bool) → Read Bracketed
  | 0, _, _ => Read.malformed
  | fuel + 1, verbose, negated => do
    let body ← readAlternatives fuel verbose false false
    Read.expect ')'
    pure (.expression (.ahead negated body))

/-- A condition on what comes before. -/
def readBehind : Nat → (verbose negated : Bool) → Read Bracketed
  | 0, _, _ => Read.malformed
  | fuel + 1, verbose, negated => do
    let outer := (← get).behind
    modify fun scan => { scan with behind := some (outer.getD scan.groups.length) }
    let body ← readAlternatives fuel verbose false false
    modify fun scan => { scan with behind := outer }
    Read.expect ')'
    let width := (body.width (← get).widthOf).fixed?
    pure (.expression (.behind negated width body))

end

/-- A pattern that has been read: its expression and the options of the whole. -/
structure Compiled where
  /-- The expression. -/
  expression : Expression
  /-- The options of the whole. -/
  options : Options
  deriving Repr

/-- The checks that a pattern as a whole has to pass. -/
def finish (expression : Expression) (scan : Scan) : Except Rejection Compiled :=
  if scan.options.ascii && scan.options.unicode then .error .conflictingAlphabets
  else if !scan.rest.isEmpty || scan.conditions.any (scan.groups.length < ·) then .error .malformed
  else if !expression.everyPart Expression.looksBackFixed then .error .malformed
  else if scan.options.literalOnly && !expression.everyPart Expression.isNotRepeated then
    .error .malformed
  else .ok ⟨expression, scan.options⟩

/-- Read a pattern under options. Each call but three consumes a token, so a multiple of their
number bounds the nesting. -/
def compile (names : CharacterNames) (options : Options) (pattern : List Char) :
    Except Rejection Compiled :=
  let input := tokens pattern
  let start : Scan := ⟨input, options, [], none, [], names⟩
  match (readAlternatives (4 * input.length + 4) options.verbose true true).run start with
  | .ok (expression, scan) => finish expression scan
  | .error rejection => .error rejection

end Pattern
end RequestFlow
