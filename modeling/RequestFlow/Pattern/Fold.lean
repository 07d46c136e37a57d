import RequestFlow.Pattern.Expression
import RequestFlow.Text.Casing
import RequestFlow.Text.Digit
import RequestFlow.Text.Word
import RequestFlow.Text.Blank

/-!
# What a single character matches

A character matches a literal, a range or a class. Where case is ignored the lower case of the
character is compared with that of the pattern, and letters that share an upper case count as one
another. Within the ASCII alphabet only the letters, digits and blanks of ASCII belong to the
classes, and only those letters have case.
-/

namespace RequestFlow
namespace Pattern

open Text

/-- Lower-case letters that share an upper case with another one, in groups. -/
def sharedUpper : List (List Nat) :=
  (entries
    "69+131 73+17f b5+3bc 345+3b9+1fbe 390+1fd3 3b0+1fe3 3b2+3d0 3b5+3f5 3b8+3d1 3ba+3f0 3c0+3d6
     3c1+3f1 3c2+3c3 3c6+3d5 432+1c80 434+1c81 43e+1c82 441+1c83 442+1c84+1c85 44a+1c86 463+1c87
     1c88+a64b 1e61+1e9b fb05+fb06").map fun entry => (splitAt '+' entry).map hexNumber

/-- A lower-case letter and those that share its upper case. -/
def relatives (code : Nat) : List Nat :=
  match sharedUpper.find? (·.contains code) with
  | some group => group
  | none => [code]

/-- The lower case of a code within an alphabet. -/
def lowerCode (ascii : Bool) (code : Nat) : Nat :=
  if ascii then if 65 ≤ code ∧ code ≤ 90 then code + 32 else code
  else if code.isValidChar then (lowerChar (Char.ofNat code)).toNat
  else code

/-- The first code of the upper case of a code. -/
def upperCode (code : Nat) : Nat :=
  match upperChars (Char.ofNat code) with
  | first :: _ => first.toNat
  | [] => code

/-- The codes whose lower case is the given one, other than itself. -/
def capitals (ascii : Bool) (code : Nat) : List Nat :=
  let near := if 97 ≤ code ∧ code ≤ 122 then [code - 32] else []
  if ascii then near else near ++ lowerRuns.filterMap (·.preimage? code)

/-- The lower-case codes that count as a given one. -/
def foldedCodes (ascii : Bool) (code : Nat) : List Nat :=
  if ascii then [code] else relatives code

/-- Whether a code lies in a range. -/
def within (first last code : Nat) : Bool :=
  first ≤ code && code ≤ last

/-- Whether a character is a literal of the pattern. -/
def isLiteral (options : Options) (code : Nat) (character : Char) : Bool :=
  if options.ignoreCase then
    (foldedCodes options.ascii (lowerCode options.ascii code)).contains
      (lowerCode options.ascii character.toNat)
  else character.toNat == code

/-- Whether a character is a literal of a class. In a class the literals beyond the basic plane
stand for themselves, even where case is ignored. -/
def isClassLiteral (options : Options) (code : Nat) (character : Char) : Bool :=
  if options.ignoreCase && 0xFFFF < code then lowerCode options.ascii character.toNat == code
  else isLiteral options code character

/-- Whether a character lies in a range of the pattern. -/
def isInRange (options : Options) (first last : Nat) (character : Char) : Bool :=
  if options.ignoreCase then
    let lowered := lowerCode options.ascii character.toNat
    (foldedCodes options.ascii lowered).any (fun code =>
      within first last code || (capitals options.ascii code).any (within first last)) ||
      (0xFFFF < last && within first last (upperCode lowered))
  else within first last character.toNat

/-- Whether a character belongs to a class. -/
def Category.contains (ascii : Bool) (category : Category) (character : Char) : Bool :=
  match category with
  | .digit => if ascii then character.isDigit else isDigit character
  | .space =>
    if ascii then character == ' ' || (9 ≤ character.toNat && character.toNat ≤ 13)
    else isBlank character
  | .word => if ascii then character.isAlphanum || character == '_' else isWord character

/-- Whether a character is one that a part of a class describes. -/
def Element.contains (options : Options) (character : Char) : Element → Bool
  | .literal code => isClassLiteral options code character
  | .range first last => isInRange options first last character
  | .category named negated => named.contains options.ascii character != negated

/-- Whether a character is what a pattern asks for. A class of one literal is that literal. -/
def Single.accepts (options : Options) (character : Char) : Single → Bool
  | .any => options.dotAll || character != '\n'
  | .literal code => isLiteral options code character
  | .oneOf negated [.literal code] => isLiteral options code character != negated
  | .oneOf negated elements => elements.any (Element.contains options character) != negated

end Pattern
end RequestFlow
