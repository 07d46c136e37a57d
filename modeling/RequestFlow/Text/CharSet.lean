/-!
# Sets of characters

A character set is an ascending array of ranges of code points. The sets of the Unicode standard
that the library needs are written as text, one hexadecimal range after another, so that a table
reads like the file of the standard it was taken from.
-/

namespace RequestFlow
namespace Text

/-- The value of a hexadecimal digit, in either case. -/
def hexDigit? (character : Char) : Option Nat :=
  if '0' ≤ character ∧ character ≤ '9' then some (character.toNat - '0'.toNat)
  else if 'a' ≤ character ∧ character ≤ 'f' then some (character.toNat - 'a'.toNat + 10)
  else if 'A' ≤ character ∧ character ≤ 'F' then some (character.toNat - 'A'.toNat + 10)
  else none

/-- Whether a character is a hexadecimal digit. -/
def isHexDigit (character : Char) : Bool :=
  (hexDigit? character).isSome

/-- The number that a run of hexadecimal digits denotes; other characters are skipped. -/
def hexNumber (digits : List Char) : Nat :=
  (digits.filterMap hexDigit?).foldl (fun value digit => 16 * value + digit) 0

/-- The parts of a text between the separators, in order; never empty. -/
def splitAt (separator : Char) : List Char → List (List Char)
  | [] => [[]]
  | character :: rest =>
    if character = separator then [] :: splitAt separator rest
    else match splitAt separator rest with
      | [] => [[character]]
      | part :: parts => (character :: part) :: parts

/-- The entries of a table, which blanks and line ends keep apart. -/
def entries (table : String) : List (List Char) :=
  ((table.toList.map fun character => if character = '\n' then ' ' else character)
    |> splitAt ' ').filter (· ≠ [])

/-- A set of characters, given by ascending ranges of code points with both ends included. -/
structure CharSet where
  /-- The first and last code point of each range. -/
  ranges : Array (Nat × Nat)

namespace CharSet

/-- Read a table of ranges such as `30-39 41-5a 5f`. -/
def read (table : String) : CharSet where
  ranges := (entries table).toArray.filterMap fun entry =>
    match splitAt '-' entry with
    | [single] => some (hexNumber single, hexNumber single)
    | first :: last :: _ => some (hexNumber first, hexNumber last)
    | [] => none

/-- Halve the candidate ranges until one is left; `steps` bounds the number of halvings. -/
def search (set : CharSet) (code : Nat) (low high : Nat) : (steps : Nat) → Bool
  | 0 => false
  | steps + 1 =>
    if low < high then
      let middle := (low + high) / 2
      match set.ranges[middle]? with
      | none => false
      | some (first, last) =>
        if code < first then set.search code low middle steps
        else if last < code then set.search code (middle + 1) high steps
        else true
    else false

/-- Whether a code point lies in one of the ranges. -/
def hasCode (set : CharSet) (code : Nat) : Bool :=
  set.search code 0 set.ranges.size (set.ranges.size + 1)

/-- Whether a character lies in one of the ranges. -/
def contains (set : CharSet) (character : Char) : Bool :=
  set.hasCode character.toNat

end CharSet
end Text
end RequestFlow
