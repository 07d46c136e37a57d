/-!
# Code points

A message may be put together from the numbers of its code points, and these may be halves of
surrogate pairs, which are no characters. Such a message is a list of points; all other texts of the
program consist of characters.
-/

namespace RequestFlow
namespace Text

/-- The code of the first half of a surrogate pair. -/
def firstHalf : Nat := 0xD800

/-- The number of halves of surrogate pairs. -/
def halfCount : Nat := 0x800

/-- A code point: a character, or one of the halves of surrogate pairs. -/
inductive Point
  | character (character : Char)
  | half (index : Fin halfCount)
  deriving DecidableEq, Repr

/-- The point of a code. -/
def Point.ofCode (code : Nat) : Point :=
  if half : firstHalf ≤ code ∧ code < firstHalf + halfCount then
    .half ⟨code - firstHalf, by omega⟩
  else .character (Char.ofNat code)

/-- The character that is shown for a point; the replacement character for a half. -/
def Point.shown : Point → Char
  | .character own => own
  | .half _ => Char.ofNat 0xFFFD

/-- The points of a text of characters. -/
def points (content : List Char) : List Point :=
  content.map .character

end Text
end RequestFlow
