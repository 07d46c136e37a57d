import RequestFlow.Text.Composition

/-!
# The composed normal form

Texts that differ only in how their marks are attached have one normal form. Every character is
taken apart as far as possible, the marks after it are put in the order of their classes, and then
characters are put together again. Korean syllables are composed by a rule, all others by a table.
-/

namespace RequestFlow
namespace Text

/-- The parts of a Korean syllable. -/
def syllableParts? (code : Nat) : Option (List Nat) :=
  if 0xAC00 ≤ code ∧ code < 0xAC00 + 11172 then
    let offset := code - 0xAC00
    if offset % 28 = 0 then some [0x1100 + offset / 588, 0x1161 + offset % 588 / 28]
    else some [code - offset % 28, 0x11A7 + offset % 28]
  else none

/-- The Korean syllable that two parts make up. -/
def syllable? (first second : Nat) : Option Nat :=
  if 0x1100 ≤ first ∧ first < 0x1113 ∧ 0x1161 ≤ second ∧ second < 0x1176 then
    some (0xAC00 + (first - 0x1100) * 588 + (second - 0x1161) * 28)
  else if 0xAC00 ≤ first ∧ first < 0xAC00 + 11172 ∧ (first - 0xAC00) % 28 = 0 ∧
      0x11A7 < second ∧ second < 0x11C3 then
    some (first + (second - 0x11A7))
  else none

/-- The parts of a code that can be taken apart. -/
def parts? (code : Nat) : Option (List Nat) :=
  if code < 0xC0 then none
  else (syllableParts? code).orElse fun _ =>
    (compositions.find? fun entry => entry.whole == code).map (·.parts)

/-- The code that two codes make up. -/
def whole? (first second : Nat) : Option Nat :=
  (syllable? first second).orElse fun _ =>
    (compositions.find? fun entry => entry.composes && entry.parts == [first, second]).map (·.whole)

/-- A code taken apart, so many times at most. Parts of parts of parts have no parts. -/
def takenApart : (times : Nat) → Nat → List Nat
  | 0, code => [code]
  | times + 1, code =>
    match parts? code with
    | none => [code]
    | some parts => parts.flatMap (takenApart times)

/-- Put a mark behind the marks of lower classes that follow it. -/
def insertMark (code : Nat) : List Nat → List Nat
  | [] => [code]
  | next :: rest =>
    if markClass next ≠ 0 ∧ markClass next < markClass code then next :: insertMark code rest
    else code :: next :: rest

/-- Codes with the marks after each character in order. -/
def inMarkOrder (codes : List Nat) : List Nat :=
  codes.foldr insertMark []

/-- Whether the marks between a character and a code, nearest first, keep the two from composing. -/
def isBlocked (between : List Nat) (code : Nat) : Bool :=
  match between with
  | [] => false
  | nearest :: _ => markClass code ≤ markClass nearest

/-- Compose a character with what follows it, after the marks that did not compose, nearest
first. -/
def composeAfter (starter : Nat) (between : List Nat) : List Nat → List Nat
  | [] => starter :: between.reverse
  | code :: rest =>
    match if isBlocked between code then none else whole? starter code with
    | some whole => composeAfter whole between rest
    | none =>
      if markClass code = 0 then starter :: between.reverse ++ composeAfter code [] rest
      else composeAfter starter (code :: between) rest

/-- Compose codes. Marks at the front have nothing to compose with. -/
def composeCodes : List Nat → List Nat
  | [] => []
  | code :: rest =>
    if markClass code = 0 then composeAfter code [] rest else code :: composeCodes rest

/-- The composed normal form of a text. -/
def composed (text : List Char) : List Char :=
  if text.all fun character => character.toNat < 0xC0 then text
  else
    (composeCodes (inMarkOrder (text.flatMap fun character => takenApart 4 character.toNat))).map
      Char.ofNat

end Text
end RequestFlow
