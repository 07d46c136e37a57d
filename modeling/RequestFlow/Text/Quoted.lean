import RequestFlow.Text.CharSet
import RequestFlow.Text.Printable

/-!
# Quoted texts

A text is quoted for messages and for the text of a list. It stands between single quotes, or
between double quotes if it holds a single quote and no double one. Backslashes, the chosen quote
and characters that are not printable are written as escapes.
-/

namespace RequestFlow
namespace Text

/-- The lower-case hexadecimal digits of a number, padded with zeros to a width. -/
def hexText (width number : Nat) : List Char :=
  let digits := Nat.toDigits 16 number
  List.replicate (width - digits.length) '0' ++ digits

/-- The quote that stands around a text. -/
def quoteFor (text : List Char) : Char :=
  if '\'' ∈ text ∧ '"' ∉ text then '"' else '\''

/-- A character as it stands between the given quotes. -/
def escapeChar (quote character : Char) : List Char :=
  if character = quote ∨ character = '\\' then ['\\', character]
  else if character = '\n' then ['\\', 'n']
  else if character = '\r' then ['\\', 'r']
  else if character = '\t' then ['\\', 't']
  else if isPrintable character then [character]
  else if character.toNat < 0x100 then '\\' :: 'x' :: hexText 2 character.toNat
  else if character.toNat < 0x10000 then '\\' :: 'u' :: hexText 4 character.toNat
  else '\\' :: 'U' :: hexText 8 character.toNat

/-- A text between quotes. -/
def quoted (text : List Char) : List Char :=
  let quote := quoteFor text
  quote :: text.flatMap (escapeChar quote) ++ [quote]

end Text
end RequestFlow
