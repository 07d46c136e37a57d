import RequestFlow.Fault
import RequestFlow.Numeral.Places
import RequestFlow.Text.Point

/-!
# Message templates

A message template holds directives, which begin with a percent sign and are replaced by arguments
in turn, or by members of one object that is the only argument. A directive says how the argument is
written, how wide, and how exactly. What is wrong with a template shows where the first wrong
directive stands, and arguments that are left over are a fault too.
-/

namespace RequestFlow
namespace Log

/-- The arguments that are left: the object whose members can be named, and those to be taken in
turn. -/
structure Supply where
  /-- The object whose members can be named. -/
  mapping : Option Fields := none
  /-- The arguments to be taken in turn. -/
  queue : List Value

/-- How an argument is laid out. -/
structure Layout where
  /-- Whether the padding goes to the right. -/
  left : Bool := false
  /-- Whether numbers that are not negative have a plus sign. -/
  plus : Bool := false
  /-- Whether they have a blank in its place. -/
  blank : Bool := false
  /-- Whether the alternate form is asked for. -/
  alternate : Bool := false
  /-- Whether the padding is with zeros. -/
  zero : Bool := false
  /-- The least width. -/
  width : Option Nat := none
  /-- The precision, which limits texts and lengthens numbers. -/
  precision : Option Nat := none

/-- The arguments of a message. A single object that is not empty is one whose members can be
named. -/
def Supply.ofArguments : List Value → Supply
  | [.object (field :: rest)] => ⟨some (field :: rest), [.object (field :: rest)]⟩
  | arguments => ⟨none, arguments⟩

/-- The next argument. -/
def Supply.next (supply : Supply) : Except FormatFault (Value × Supply) :=
  match supply.queue with
  | [] => .error .missingArguments
  | value :: rest => .ok (value, { supply with queue := rest })

/-- Whether no argument is left over. Members need not all be used. -/
def Supply.isSpent (supply : Supply) : Bool :=
  supply.mapping.isSome || supply.queue.isEmpty

/-- The name in brackets of which so many are open, and what follows them. -/
def takeName : (depth : Nat) → List Char → Option (List Char × List Char)
  | _, [] => none
  | depth, '(' :: rest => (takeName (depth + 1) rest).map fun (name, after) => ('(' :: name, after)
  | 0, ')' :: rest => some ([], rest)
  | depth + 1, ')' :: rest => (takeName depth rest).map fun (name, after) => (')' :: name, after)
  | depth, character :: rest =>
    (takeName depth rest).map fun (name, after) => (character :: name, after)

/-- Take the name of a member, if there is one; the member is then the only argument. -/
def takeMember (supply : Supply) : List Char → Except FormatFault (Supply × List Char)
  | '(' :: rest =>
    match supply.mapping with
    | none => .error .notMapping
    | some fields =>
      match takeName 0 rest with
      | none => .error .incompleteKey
      | some (name, after) =>
        match Assoc.get? (.text (String.ofList name)) fields with
        | none => .error (.missingKey (String.ofList name))
        | some value => .ok ({ supply with queue := [value] }, after)
  | input => .ok (supply, input)

/-- Take the flags of a layout. -/
def takeFlags (layout : Layout) : List Char → Layout × List Char
  | '-' :: rest => takeFlags { layout with left := true } rest
  | '+' :: rest => takeFlags { layout with plus := true } rest
  | ' ' :: rest => takeFlags { layout with blank := true } rest
  | '#' :: rest => takeFlags { layout with alternate := true } rest
  | '0' :: rest => takeFlags { layout with zero := true } rest
  | input => (layout, input)

/-- The greatest width. -/
def widthLimit : Nat := Nat.pow 2 63 - 1

/-- The greatest precision. -/
def precisionLimit : Nat := Nat.pow 2 31 - 1

/-- The number at the front of a text, if there is one. -/
def takeNumber (input : List Char) : Option Nat × List Char :=
  match input.span Char.isDigit with
  | ([], rest) => (none, rest)
  | (digits, rest) => (some (Numeral.digitsValue digits), rest)

/-- A whole number given as an argument, within a bound on its magnitude. -/
def starNumber (limit : Nat) (beyond : FormatFault) : Value → Except FormatFault Int
  | .bool flag => .ok (if flag then 1 else 0)
  | .int number =>
    if -(limit : Int) - 1 ≤ number ∧ number ≤ limit then .ok number else .error beyond
  | _ => .error .starNotWhole

/-- Take the width, which may be an argument; a negative one aligns to the left. -/
def takeWidth (layout : Layout) (supply : Supply) :
    List Char → Except FormatFault (Layout × Supply × List Char)
  | '*' :: rest => do
    let (value, supply) ← supply.next
    let width ← starNumber widthLimit .widthOutOfRange value
    let aligned := { layout with left := layout.left || width < 0, width := some width.natAbs }
    .ok (aligned, supply, rest)
  | input =>
    match takeNumber input with
    | (some width, rest) =>
      if widthLimit < width then .error .widthTooBig
      else .ok ({ layout with width := some width }, supply, rest)
    | (none, rest) => .ok (layout, supply, rest)

/-- Take the precision, which may be an argument; a negative one counts as zero, as does none after
the point. -/
def takePrecision (layout : Layout) (supply : Supply) :
    List Char → Except FormatFault (Layout × Supply × List Char)
  | '.' :: '*' :: rest => do
    let (value, supply) ← supply.next
    let precision ← starNumber precisionLimit .precisionOutOfRange value
    .ok ({ layout with precision := some precision.toNat }, supply, rest)
  | '.' :: rest =>
    match takeNumber rest with
    | (some precision, after) =>
      if precisionLimit < precision then .error .precisionTooBig
      else .ok ({ layout with precision := some precision }, supply, after)
    | (none, after) => .ok ({ layout with precision := some 0 }, supply, after)
  | input => .ok (layout, supply, input)

/-- Pass over a letter for the size of a number, which says nothing. -/
def dropSize : List Char → List Char
  | 'h' :: rest => rest
  | 'l' :: rest => rest
  | 'L' :: rest => rest
  | input => input

/-- A text between its sign or marks and its end, padded to the width of a layout. -/
def Layout.pad (layout : Layout) (zeros : Bool) (front body : List Char) : List Char :=
  let padding := layout.width.getD 0 - (front.length + body.length)
  if layout.left then front ++ body ++ List.replicate padding ' '
  else if zeros && layout.zero then front ++ List.replicate padding '0' ++ body
  else List.replicate padding ' ' ++ front ++ body

/-- A text in a layout, cut to its precision. -/
def Layout.placeText (layout : Layout) (content : List Char) : List Char :=
  layout.pad false [] (match layout.precision with
    | none => content
    | some precision => content.take precision)

/-- A point in a layout. -/
def Layout.placePoint (layout : Layout) (point : Text.Point) : List Text.Point :=
  let padding := Text.points (List.replicate (layout.width.getD 0 - 1) ' ')
  if layout.left then point :: padding else padding ++ [point]

/-- The sign of a number in a layout. -/
def Layout.sign (layout : Layout) (negative : Bool) : List Char :=
  if negative then ['-'] else if layout.plus then ['+'] else if layout.blank then [' '] else []

/-- A whole number in a base, with at least as many digits as the precision asks for. -/
def Layout.placeWhole (layout : Layout) (base : Nat) (mark : List Char) (upper : Bool)
    (number : Int) : List Char :=
  let digits := Nat.toDigits base number.natAbs
  let digits := if upper then digits.map Char.toUpper else digits
  let padded := List.replicate (layout.precision.getD 0 - digits.length) '0' ++ digits
  layout.pad true (layout.sign (number < 0) ++ if layout.alternate then mark else []) padded

/-- A double in a notation, with six places unless the precision says otherwise. -/
def Layout.placeDouble (layout : Layout) (form : Double.DecimalForm) (upper : Bool)
    (number : Double) : List Char :=
  let written := Double.placesText form layout.alternate (layout.precision.getD 6) number
  let written := if upper then written.map Char.toUpper else written
  match written with
  | '-' :: magnitude => layout.pad true ['-'] magnitude
  | magnitude => layout.pad true (layout.sign false) magnitude

/-- A value as a whole number, cut toward zero. -/
def wholeOf (letter : Char) : Value → Except FormatFault Int
  | .bool flag => .ok (if flag then 1 else 0)
  | .int number => .ok number
  | .float .nan => .error .nanToInteger
  | .float (.infinite _) => .error .infinityToInteger
  | .float number => .ok (number.truncate?.getD 0)
  | value => .error (.notReal letter value.kind)

/-- A value that is a whole number already. -/
def exactWholeOf (letter : Char) : Value → Except FormatFault Int
  | .bool flag => .ok (if flag then 1 else 0)
  | .int number => .ok number
  | value => .error (.notWhole letter value.kind)

/-- A value as a double. -/
def doubleOf : Value → Except FormatFault Double
  | .bool flag => .ok (.ofInt (if flag then 1 else 0))
  | .int number =>
    match Double.ofInt number with
    | .infinite _ => .error .largeFloat
    | nearest => .ok nearest
  | .float number => .ok number
  | value => .error (.notNumber value.kind)

/-- A value as one point. -/
def pointOf : Value → Except FormatFault Text.Point
  | .text content =>
    match content.toList with
    | [character] => .ok (.character character)
    | _ => .error .notCharacter
  | .bool flag => .ok (.ofCode (if flag then 1 else 0))
  | .int number =>
    if number < 0 ∨ 0x110000 ≤ number then .error .characterRange
    else .ok (.ofCode number.toNat)
  | _ => .error .notCharacter

/-- A text with every character beyond ASCII escaped. -/
def asciiOnly (content : List Char) : List Char :=
  content.flatMap fun character =>
    let code := character.toNat
    if code < 0x80 then [character]
    else if code < 0x100 then '\\' :: 'x' :: Text.hexText 2 code
    else if code < 0x10000 then '\\' :: 'u' :: Text.hexText 4 code
    else '\\' :: 'U' :: Text.hexText 8 code

/-- An argument as characters, as the letter of its directive asks for, at a position of the
template. -/
def convertText (layout : Layout) (position : Nat) (letter : Char) (value : Value) :
    Except FormatFault (List Char) :=
  match letter with
  | 's' => .ok (layout.placeText value.display.toList)
  | 'r' => .ok (layout.placeText value.written)
  | 'a' => .ok (layout.placeText (asciiOnly value.written))
  | 'd' | 'i' | 'u' => (wholeOf letter value).map (layout.placeWhole 10 [] false)
  | 'o' => (exactWholeOf letter value).map (layout.placeWhole 8 ['0', 'o'] false)
  | 'x' => (exactWholeOf letter value).map (layout.placeWhole 16 ['0', 'x'] false)
  | 'X' => (exactWholeOf letter value).map (layout.placeWhole 16 ['0', 'X'] true)
  | 'f' => (doubleOf value).map (layout.placeDouble .fixed false)
  | 'F' => (doubleOf value).map (layout.placeDouble .fixed true)
  | 'e' => (doubleOf value).map (layout.placeDouble .scientific false)
  | 'E' => (doubleOf value).map (layout.placeDouble .scientific true)
  | 'g' => (doubleOf value).map (layout.placeDouble .general false)
  | 'G' => (doubleOf value).map (layout.placeDouble .general true)
  | _ => .error (.unsupported letter position)

/-- An argument as the letter of its directive asks for. One letter asks for a single point, which
may be half of a surrogate pair. -/
def convert (layout : Layout) (position : Nat) (letter : Char) (value : Value) :
    Except FormatFault (List Text.Point) :=
  match letter with
  | 'c' => (pointOf value).map layout.placePoint
  | _ => (convertText layout position letter value).map Text.points

/-- Carry out a directive that takes an argument. -/
def conversion (position : Nat) (supply : Supply) (input : List Char) :
    Except FormatFault (List Text.Point × Supply × List Char) := do
  let (supply, rest) ← takeMember supply input
  let (layout, rest) := takeFlags {} rest
  let (layout, supply, rest) ← takeWidth layout supply rest
  let (layout, supply, rest) ← takePrecision layout supply rest
  match dropSize rest with
  | [] => .error .incomplete
  | letter :: after =>
    let (value, supply) ← supply.next
    let written ← convert layout (position + (input.length - after.length - 1)) letter value
    .ok (written, supply, after)

/-- Carry out the directive that follows a percent sign before a position: its text, the arguments
that are left, and what follows it. Two percent signs stand for one. -/
def directive (position : Nat) (supply : Supply) :
    List Char → Except FormatFault (List Text.Point × Supply × List Char)
  | '%' :: after => .ok ([.character '%'], supply, after)
  | input => conversion position supply input

/-- A template from a position on, after passing over characters that belong to a directive. -/
def expandAfter :
    (covered position : Nat) → Supply → List Char → Except FormatFault (List Text.Point)
  | _, _, supply, [] => if supply.isSpent then .ok [] else .error .surplusArguments
  | covered + 1, position, supply, _ :: rest => expandAfter covered (position + 1) supply rest
  | 0, position, supply, character :: rest =>
    if character = '%' then do
      let (written, left, after) ← directive (position + 1) supply rest
      let others ← expandAfter (rest.length - after.length) (position + 1) left rest
      .ok (written ++ others)
    else (expandAfter 0 (position + 1) supply rest).map (.character character :: ·)

/-- The message of a template and its arguments; without arguments the template is the message. -/
def expand (template : String) (arguments : List Value) : Except Fault (List Text.Point) :=
  if arguments.isEmpty then .ok (Text.points template.toList)
  else
    match expandAfter 0 0 (.ofArguments arguments) template.toList with
    | .ok message => .ok message
    | .error fault => .error (.badTemplate fault)

end Log
end RequestFlow
