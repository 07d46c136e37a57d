import RequestFlow.Assoc

/-!
# Regular expressions

An expression describes texts: single characters, sequences and alternatives, repetition, groups
whose text is remembered and can be referred to, and conditions on what surrounds a position.
Options change what the parts of an expression mean, for a whole pattern or for a scope inside it.
-/

namespace RequestFlow
namespace Pattern

/-- Options of a pattern or of a scope inside it. -/
structure Options where
  /-- Whether characters are compared regardless of their case. -/
  ignoreCase : Bool := false
  /-- Whether the ends of lines count as ends of the text. -/
  multiline : Bool := false
  /-- Whether the point stands for line ends as well. -/
  dotAll : Bool := false
  /-- Whether blanks and comments in the pattern are passed over. -/
  verbose : Bool := false
  /-- Whether classes hold characters of ASCII only. -/
  ascii : Bool := false
  /-- Whether classes hold characters of all scripts. -/
  unicode : Bool := false
  /-- Whether the pattern may not repeat anything. -/
  literalOnly : Bool := false
  deriving DecidableEq, Repr

/-- Classes of characters with a name. -/
inductive Category
  | digit
  | space
  | word
  deriving DecidableEq, Repr

/-- A part of a character class. Codes need not be those of characters. -/
inductive Element
  | literal (code : Nat)
  | range (first last : Nat)
  | category (category : Category) (negated : Bool)
  deriving DecidableEq, Repr

/-- What a single character may be. -/
inductive Single
  | any
  | literal (code : Nat)
  | oneOf (negated : Bool) (elements : List Element)
  deriving DecidableEq, Repr

/-- Conditions on a position. -/
inductive Anchor
  | textStart
  | textEnd
  | lineStart
  | lineEnd
  | boundary
  | noBoundary
  deriving DecidableEq, Repr

/-- How a repetition chooses the number of rounds: as many as possible, as few as possible, or as
many as possible without ever giving one back. -/
inductive Greed
  | greedy
  | lazy
  | possessive
  deriving DecidableEq, Repr

/-- The least and the greatest number of characters that an expression describes. -/
structure Width where
  /-- The least number of characters. -/
  least : Nat
  /-- The greatest number, if there is one. -/
  most : Option Nat
  deriving DecidableEq, Repr

/-- A regular expression. A lookbehind knows the number of characters to go back, if that is
fixed. -/
inductive Expression
  | empty
  | single (single : Single)
  | both (first second : Expression)
  | either (first second : Expression)
  | group (number : Nat) (body : Expression)
  | scope (added removed : Options) (body : Expression)
  | ahead (negated : Bool) (body : Expression)
  | behind (negated : Bool) (width : Option Nat) (body : Expression)
  | atomic (body : Expression)
  | repeated (greed : Greed) (least : Nat) (most : Option Nat) (body : Expression)
  | reference (number : Nat)
  | conditional (number : Nat) (present absent : Expression)
  | anchor (anchor : Anchor)
  deriving Repr

namespace Width

/-- The width of a single character. -/
def one : Width := ⟨1, some 1⟩

/-- The width of nothing. -/
def zero : Width := ⟨0, some 0⟩

/-- The width of one expression after another. -/
def plus (first second : Width) : Width where
  least := first.least + second.least
  most := match first.most, second.most with
    | some firstMost, some secondMost => some (firstMost + secondMost)
    | _, _ => none

/-- The width of one expression or another. -/
def orElse (first second : Width) : Width where
  least := min first.least second.least
  most := match first.most, second.most with
    | some firstMost, some secondMost => some (max firstMost secondMost)
    | _, _ => none

/-- The width of a repetition. -/
def times (least : Nat) (most : Option Nat) (width : Width) : Width where
  least := width.least * least
  most := match width.most, most with
    | some 0, _ => some 0
    | _, some 0 => some 0
    | some bodyMost, some rounds => some (bodyMost * rounds)
    | _, _ => none

/-- The number of characters, if it is fixed and within the range of a position. -/
def fixed? (width : Width) : Option Nat :=
  if width.most = some width.least ∧ width.least < Nat.pow 2 32 then some width.least else none

end Width

namespace Options

/-- The options inside a scope. To choose an alphabet is to give up the other one. -/
def inScope (options added removed : Options) : Options where
  ignoreCase := (options.ignoreCase || added.ignoreCase) && !removed.ignoreCase
  multiline := (options.multiline || added.multiline) && !removed.multiline
  dotAll := (options.dotAll || added.dotAll) && !removed.dotAll
  verbose := (options.verbose || added.verbose) && !removed.verbose
  ascii := if added.ascii || added.unicode then added.ascii else options.ascii
  unicode := if added.ascii || added.unicode then added.unicode else options.unicode
  literalOnly := options.literalOnly

/-- All options of two sets. -/
def join (first second : Options) : Options where
  ignoreCase := first.ignoreCase || second.ignoreCase
  multiline := first.multiline || second.multiline
  dotAll := first.dotAll || second.dotAll
  verbose := first.verbose || second.verbose
  ascii := first.ascii || second.ascii
  unicode := first.unicode || second.unicode
  literalOnly := first.literalOnly || second.literalOnly

/-- Whether two sets of options have one in common. -/
def overlap (first second : Options) : Bool :=
  (first.ignoreCase && second.ignoreCase) || (first.multiline && second.multiline) ||
    (first.dotAll && second.dotAll) || (first.verbose && second.verbose)

end Options

namespace Expression

/-- Expressions one after another. -/
def sequence : List Expression → Expression
  | [] => .empty
  | [only] => only
  | first :: rest => .both first (sequence rest)

/-- The width of an expression, given the widths of the groups. -/
def width (groups : Nat → Width) : Expression → Width
  | .empty => .zero
  | .single _ => .one
  | .both first second => (first.width groups).plus (second.width groups)
  | .either first second => (first.width groups).orElse (second.width groups)
  | .group _ body => body.width groups
  | .scope _ _ body => body.width groups
  | .ahead _ _ => .zero
  | .behind _ _ _ => .zero
  | .atomic body => body.width groups
  | .repeated _ least most body => (body.width groups).times least most
  | .reference number => groups number
  | .conditional _ present absent => (present.width groups).orElse (absent.width groups)
  | .anchor _ => .zero

/-- Whether every part of an expression satisfies a test. -/
def everyPart (test : Expression → Bool) : Expression → Bool
  | .both first second =>
    test (.both first second) && first.everyPart test && second.everyPart test
  | .either first second =>
    test (.either first second) && first.everyPart test && second.everyPart test
  | .group number body => test (.group number body) && body.everyPart test
  | .scope added removed body => test (.scope added removed body) && body.everyPart test
  | .ahead negated body => test (.ahead negated body) && body.everyPart test
  | .behind negated width body => test (.behind negated width body) && body.everyPart test
  | .atomic body => test (.atomic body) && body.everyPart test
  | .repeated greed least most body =>
    test (.repeated greed least most body) && body.everyPart test
  | .conditional number present absent =>
    test (.conditional number present absent) && present.everyPart test && absent.everyPart test
  | expression => test expression

/-- A part that looks back goes back a fixed number of characters. -/
def looksBackFixed : Expression → Bool
  | .behind _ width _ => width.isSome
  | _ => true

/-- A part is no repetition. -/
def isNotRepeated : Expression → Bool
  | .repeated _ _ _ _ => false
  | _ => true

end Expression
end Pattern
end RequestFlow
