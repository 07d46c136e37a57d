import RequestFlow.Pattern.Fold
import RequestFlow.Pattern.Reader

/-!
# Searching by backtracking

An expression is matched from a position on, and what follows it is a continuation that may refuse;
the choices of the expression are then tried in order. The first success wins, so alternatives are
tried from left to right and repetitions as they choose. A round of a repetition that matches
nothing is not followed by another.
-/

namespace RequestFlow
namespace Pattern

/-- A position in a text, with the positions at which groups were entered and left last. -/
structure Cursor where
  /-- The number of characters before it. -/
  position : Nat
  /-- Where each group was entered last. -/
  entered : Assoc Nat Nat := []
  /-- Where each group was left last. -/
  left : Assoc Nat Nat := []
  deriving Repr

/-- What has to match after an expression. -/
abbrev Continuation := Cursor → Option Cursor

/-- How an expression is matched before a continuation. -/
abbrev Matcher := Cursor → Continuation → Option Cursor

/-- The span of a group, if it has been left at or after its start. -/
def Cursor.span? (cursor : Cursor) (number : Nat) : Option (Nat × Nat) := do
  let first ← cursor.entered.get? number
  let last ← cursor.left.get? number
  if first ≤ last then some (first, last) else none

/-- Whether a number of rounds may be exceeded. -/
def mayExceed (most : Option Nat) (rounds : Nat) : Bool :=
  match most with
  | none => true
  | some limit => rounds < limit

/-- Match rounds as often as possible and then the continuation. -/
def matchGreedy (round : Matcher) (least : Nat) (most : Option Nat) (next : Continuation) :
    Nat → (rounds : Nat) → (last : Option Nat) → Cursor → Option Cursor
  | 0, _, _, _ => none
  | fuel + 1, rounds, last, cursor =>
    if rounds < least then
      round cursor (matchGreedy round least most next fuel (rounds + 1) last)
    else if mayExceed most rounds && last != some cursor.position then
      match round cursor
          (matchGreedy round least most next fuel (rounds + 1) (some cursor.position)) with
      | some found => some found
      | none => next cursor
    else next cursor

/-- Match rounds as seldom as possible and then the continuation. -/
def matchLazy (round : Matcher) (least : Nat) (most : Option Nat) (next : Continuation) :
    Nat → (rounds : Nat) → (last : Option Nat) → Cursor → Option Cursor
  | 0, _, _, _ => none
  | fuel + 1, rounds, last, cursor =>
    if rounds < least then
      round cursor (matchLazy round least most next fuel (rounds + 1) last)
    else
      match next cursor with
      | some found => some found
      | none =>
        if mayExceed most rounds && last != some cursor.position then
          round cursor (matchLazy round least most next fuel (rounds + 1) (some cursor.position))
        else none

/-- Match rounds as often as possible, each by its first success alone. -/
def matchPossessive (round : Matcher) (least : Nat) (most : Option Nat) :
    Nat → (rounds : Nat) → (last : Option Nat) → Cursor → Option Cursor
  | 0, _, _, _ => none
  | fuel + 1, rounds, last, cursor =>
    if rounds < least then
      match round cursor some with
      | some reached => matchPossessive round least most fuel (rounds + 1) last reached
      | none => none
    else if mayExceed most rounds && last != some cursor.position then
      match round cursor some with
      | some reached =>
        matchPossessive round least most fuel (rounds + 1) (some cursor.position) reached
      | none => some cursor
    else some cursor

/-- Match a repetition. Beyond the least number of rounds all but one advance, which bounds them. -/
def matchRepeated (size : Nat) (greed : Greed) (least : Nat) (most : Option Nat) (round : Matcher) :
    Matcher :=
  fun cursor next =>
    let fuel := least + (size - cursor.position) + 2
    match greed with
    | .greedy => matchGreedy round least most next fuel 0 none cursor
    | .lazy => matchLazy round least most next fuel 0 none cursor
    | .possessive => (matchPossessive round least most fuel 0 none cursor).bind next

/-- Whether a character before or after a position belongs to a word. -/
def wordAt (options : Options) (subject : Array Char) (position : Nat) : Bool :=
  match subject[position]? with
  | some character => Category.word.contains options.ascii character
  | none => false

/-- Whether words begin or end at a position. -/
def isBoundary (options : Options) (subject : Array Char) (position : Nat) : Bool :=
  (0 < position && wordAt options subject (position - 1)) != wordAt options subject position

/-- Whether a condition holds at a position. An empty text has no boundaries and no places
without. -/
def Anchor.holds (options : Options) (subject : Array Char) (position : Nat) : Anchor → Bool
  | .textStart => position == 0
  | .textEnd => position == subject.size
  | .lineStart => position == 0 || (options.multiline && subject[position - 1]? == some '\n')
  | .lineEnd =>
    position == subject.size ||
      (subject[position]? == some '\n' && (options.multiline || position + 1 == subject.size))
  | .boundary => !subject.isEmpty && isBoundary options subject position
  | .noBoundary => !subject.isEmpty && !isBoundary options subject position

/-- Whether a span of the text occurs again at a position. -/
def recurs (options : Options) (subject : Array Char) (first count position : Nat) : Bool :=
  (List.range count).all fun offset =>
    match subject[first + offset]?, subject[position + offset]? with
    | some earlier, some later =>
      if options.ignoreCase then
        lowerCode options.ascii earlier.toNat == lowerCode options.ascii later.toNat
      else earlier == later
    | _, _ => false

/-- Match an expression at a position and then a continuation. -/
def Expression.matcher (subject : Array Char) (options : Options) : Expression → Matcher
  | .empty => fun cursor next => next cursor
  | .single wanted => fun cursor next =>
    match subject[cursor.position]? with
    | some character =>
      if wanted.accepts options character then
        next { cursor with position := cursor.position + 1 }
      else none
    | none => none
  | .both first second => fun cursor next =>
    first.matcher subject options cursor fun reached => second.matcher subject options reached next
  | .either first second => fun cursor next =>
    match first.matcher subject options cursor next with
    | some found => some found
    | none => second.matcher subject options cursor next
  | .group number body => fun cursor next =>
    body.matcher subject options
      { cursor with entered := cursor.entered.put number cursor.position }
      fun reached => next { reached with left := reached.left.put number reached.position }
  | .scope added removed body => body.matcher subject (options.inScope added removed)
  | .ahead negated body => fun cursor next =>
    match body.matcher subject options cursor some with
    | some reached => if negated then none else next { reached with position := cursor.position }
    | none => if negated then next cursor else none
  | .behind negated width body => fun cursor next =>
    let back := width.getD 0
    let found :=
      if cursor.position < back then none
      else body.matcher subject options { cursor with position := cursor.position - back } some
    match found with
    | some reached => if negated then none else next { reached with position := cursor.position }
    | none => if negated then next cursor else none
  | .atomic body => fun cursor next => (body.matcher subject options cursor some).bind next
  | .repeated greed least most body =>
    matchRepeated subject.size greed least most (body.matcher subject options)
  | .reference number => fun cursor next =>
    match cursor.span? number with
    | some (first, last) =>
      if recurs options subject first (last - first) cursor.position then
        next { cursor with position := cursor.position + (last - first) }
      else none
    | none => none
  | .conditional number present absent => fun cursor next =>
    if (cursor.span? number).isSome then present.matcher subject options cursor next
    else absent.matcher subject options cursor next
  | .anchor condition => fun cursor next =>
    if condition.holds options subject cursor.position then next cursor else none

/-- The first place in a text, from left to right, that a pattern matches. -/
def Compiled.search? (pattern : Compiled) (text : List Char) : Option (Nat × Nat) :=
  let subject := text.toArray
  (List.range (subject.size + 1)).findSome? fun start =>
    (pattern.expression.matcher subject pattern.options ⟨start, [], []⟩ some).map fun reached =>
      (start, reached.position)

/-! ## Delimited patterns -/

/-- Characters that may stand around a pattern. -/
def delimiters : List Char :=
  ['/', '#', '~', '@', '%', '!']

/-- The option that a letter after a delimited pattern stands for. -/
def suffixOption? (letter : Char) : Option Options :=
  [('i', ({ ignoreCase := true } : Options)), ('m', { multiline := true }),
    ('s', { dotAll := true }), ('x', { verbose := true }), ('u', {})].lookup letter

/-- The options that the letters after a delimited pattern stand for, if all of them stand for
one. -/
def suffixOptions? : List Char → Option Options
  | [] => some {}
  | letter :: rest =>
    match suffixOption? letter, suffixOptions? rest with
    | some option, some others => some (option.join others)
    | _, _ => none

/-- The parts of a text before and after the last occurrence of a character. -/
def splitLast? (mark : Char) : List Char → Option (List Char × List Char)
  | [] => none
  | character :: rest =>
    match splitLast? mark rest with
    | some (before, after) => some (character :: before, after)
    | none => if character = mark then some ([], rest) else none

/-- The body and the options of a pattern written between delimiters. -/
def delimited? : List Char → Option (List Char × Options)
  | [] => none
  | first :: rest =>
    if first ∈ delimiters then
      match splitLast? first rest with
      | some (body, suffix) => (suffixOptions? suffix).map fun options => (body, options)
      | none => none
    else none

/-- Read a pattern, delimited or not. -/
def ofText (names : CharacterNames) (source : String) : Except Rejection Compiled :=
  match delimited? source.toList with
  | some (body, options) => compile names options body
  | none => compile names {} source.toList

end Pattern
end RequestFlow
