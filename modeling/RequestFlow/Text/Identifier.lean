import RequestFlow.Text.Digit
import RequestFlow.Text.Mark
import RequestFlow.Text.Word

/-!
# Identifiers

An identifier is made of letters, letter-like numbers, decimal digits, marks and connectors of any
script, and starts with a letter or an underscore. Numbers that are neither letters nor decimal
digits, such as superscripts and fractions, belong to no identifier, and neither do marks that
enclose the character before them.
-/

namespace RequestFlow
namespace Text

/-- Letters and numbers that belong to no identifier. -/
def strayNumbers : CharSet := .read
  "b2-b3 b9 bc-be 37a 9f4-9f9 b72-b77 bf0-bf2 c78-c7e d58-d5e d70-d78 f2a-f33 1372-137c
   17f0-17f9 2070 2074-2079 2080-2089 2150-215f 2189 2460-249b 24ea-24ff 2776-2793 2cfd 2e2f
   3192-3195 3220-3229 3248-324f 3251-325f 3280-3289 32b1-32bf a830-a835 fc5e-fc63 fdfa-fdfb
   fe70 fe72 fe74 fe76 fe78 fe7a fe7c fe7e 10107-10133 10175-10178 1018a-1018b 102e1-102fb
   10320-10323 10858-1085f 10879-1087f 108a7-108af 108fb-108ff 10916-1091b 109bc-109bd
   109c0-109cf 109d2-109ff 10a40-10a48 10a7d-10a7e 10a9d-10a9f 10aeb-10aef 10b58-10b5f
   10b78-10b7f 10ba9-10baf 10cfa-10cff 10e60-10e7e 10f1d-10f26 10f51-10f54 10fc5-10fcb
   11052-11065 111e1-111f4 1173a-1173b 118ea-118f2 11c5a-11c6c 11fc0-11fd4 16b5b-16b61
   16e80-16e96 1d2e0-1d2f3 1d360-1d378 1e8c7-1e8cf 1ec71-1ecab 1ecad-1ecaf 1ecb1-1ecb4
   1ed01-1ed2d 1ed2f-1ed3d 1f100-1f10c"

/-- Letters and numbers of identifiers, decimal digits aside, that do not start one. -/
def innerLetters : CharSet := .read
  "e33 eb3 1369-1371 19da ff9e-ff9f"

/-- Marks that enclose the character before them. -/
def enclosingMarks : CharSet := .read
  "488-489 1abe 20dd-20e0 20e2-20e4 a670-a672"

/-- Characters of identifiers that are neither letters, numbers nor marks. -/
def connectors : CharSet := .read
  "5f b7 387 203f-2040 2054 2118 212e fe33-fe34 fe4d-fe4f ff3f"

/-- Characters that start an identifier without being letters or numbers. -/
def otherInitials : CharSet := .read
  "5f 1885-1886 2118 212e"

/-- Whether a character may start an identifier. -/
def startsIdentifier (character : Char) : Bool :=
  otherInitials.contains character ||
    isAlphanumeric character && !isDigit character && !strayNumbers.contains character &&
      !innerLetters.contains character

/-- Whether a character may stand in an identifier after its first one. -/
def continuesIdentifier (character : Char) : Bool :=
  connectors.contains character ||
    isMark character && !enclosingMarks.contains character ||
    isAlphanumeric character && !strayNumbers.contains character

/-- Whether a text is an identifier. -/
def isIdentifier : List Char → Bool
  | [] => false
  | first :: rest => startsIdentifier first && rest.all continuesIdentifier

end Text
end RequestFlow
