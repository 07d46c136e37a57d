import RequestFlow.Domain.Direction
import RequestFlow.Domain.Mapping
import RequestFlow.Domain.Permitted
import RequestFlow.Domain.Punycode
import RequestFlow.Text.Printable

/-!
# Domain names

A domain name is a sequence of labels with dots between them. It has a form in ASCII, in which
labels with other characters are encoded, and an international form, in which they are decoded.
Names under which no mail is delivered are refused.
-/

namespace RequestFlow
namespace Domain

open Text

/-- Characters that may occur in a name before it is looked at closely. -/
def isNameChar (character : Char) : Bool :=
  character.isAlphanum || character == '-' || character == '.' || 0x80 ≤ character.toNat

/-- Whether a text has only letters, numbers, punctuation, symbols and marks, and no mark at its
front. -/
def isSensible (text : List Char) : Bool :=
  text.all (fun character => character != ' ' && isPrintable character) &&
    match text with
    | first :: _ => !isMark first
    | [] => true

/-- Whether hyphens stand in both the third and the fourth place. -/
def hasInnerHyphens (label : List Char) : Bool :=
  (label.drop 2).take 2 == ['-', '-']

/-- Whether a hyphen stands at neither end. -/
def hasBareEnds (label : List Char) : Bool :=
  label.head? != some '-' && label.getLast? != some '-'

/-- Whether every character of a label is permitted where it stands. -/
def allPermitted (before : List Char) : List Char → Bool
  | [] => true
  | character :: rest =>
    isPermitted before character rest && allPermitted (character :: before) rest

/-- Whether a text is a label in its international form. -/
def isLabel (label : List Char) : Bool :=
  !label.isEmpty && label.length ≤ 254 && composed label == label && !hasInnerHyphens label &&
    hasBareEnds label && !(label.head?.any isMark) && allPermitted [] label && directionsFit label

/-- The mark of an encoded label. -/
def encodedMark : List Char :=
  ['x', 'n', '-', '-']

/-- A label without the mark of an encoded one. -/
def dropMark? (label : List Char) : Option (List Char) :=
  if label.take 4 == encodedMark then some (label.drop 4) else none

/-- The international form of a label that is written in ASCII. -/
def decodeLabel? (label : List Char) : Option (List Char) :=
  let lowered := label.map Char.toLower
  match dropMark? lowered with
  | none => if isLabel lowered then some lowered else none
  | some encoded =>
    if encoded.isEmpty || encoded.getLast? == some '-' then none
    else
      match decodePunycode? encoded with
      | some decoded => if isLabel decoded then some decoded else none
      | none => none

/-- The greatest length of a label in ASCII. -/
def labelLimit : Nat := 63

/-- The form of a label in ASCII. -/
def encodeLabel? (label : List Char) : Option (List Char) :=
  if label.all fun character => character.toNat < 128 then
    if (decodeLabel? label).isSome && label.length ≤ labelLimit then some label else none
  else
    let encoded := encodedMark ++ encodePunycode label
    if isLabel label && encoded.length ≤ labelLimit then some encoded else none

/-- Labels with dots between them. -/
def joinLabels : List (List Char) → List Char
  | [] => []
  | [label] => label
  | label :: rest => label ++ '.' :: joinLabels rest

/-- Whether a label is one of ASCII letters, digits and inner hyphens. -/
def isHostLabel (label : List Char) : Bool :=
  !label.isEmpty && hasBareEnds label &&
    label.all fun character => character.isAlphanum || character == '-'

/-- Whether a label looks encoded in a way that is not known. -/
def isReserved (label : List Char) : Bool :=
  hasInnerHyphens label && (label.take 2).map Char.toLower != ['x', 'n']

/-- The labels of a name in ASCII. -/
def encodeName? (labels : List (List Char)) : Option (List (List Char)) :=
  if labels.all isHostLabel then some labels
  else
    match labels.mapM encodeLabel? with
    | some encoded => if encoded.all isHostLabel then some encoded else none
    | none => none

/-- Names under which no mail is delivered. -/
def undeliverable : List (List Char) :=
  ["arpa", "invalid", "local", "localhost", "onion", "test"].map String.toList

/-- The greatest length of a name in ASCII. -/
def nameLimit : Nat := 253

/-- Whether mail can be delivered under a name in ASCII: it has several labels, ends in a letter and
is not among the undeliverable ones. -/
def isDeliverable (labels : List (List Char)) : Bool :=
  1 < labels.length && (joinLabels labels).getLast?.any Char.isAlpha &&
    !(labels.getLast?.any undeliverable.contains)

/-- A domain name in its two forms. -/
structure Name where
  /-- The form in ASCII. -/
  ascii : List Char
  /-- The form with characters of all scripts. -/
  international : List Char
  deriving Repr

/-- The labels of a name, if they are well placed. -/
def labels? (name : List Char) : Option (List (List Char)) :=
  let labels := splitAt '.' name
  if labels.all fun label => !label.isEmpty && hasBareEnds label && !isReserved label then
    some labels
  else none

/-- The forms of a name with the given labels. -/
def ofLabels? (labels : List (List Char)) : Option Name := do
  let encoded ← encodeName? labels
  let ascii := joinLabels encoded
  if ascii.length ≤ nameLimit ∧ encoded.all (·.length ≤ labelLimit) ∧ isDeliverable encoded then
    let decoded ← encoded.mapM decodeLabel?
    let again ← decoded.mapM encodeLabel?
    if (joinLabels again).length ≤ nameLimit then some ⟨ascii, joinLabels decoded⟩ else none
  else none

/-- Read a domain name under which mail can be delivered. -/
def Name.ofText? (text : List Char) : Option Name := do
  if text.all isNameChar && isSensible text then
    let name ← remap? text
    if name.all isNameChar then
      let labels ← labels? name
      ofLabels? labels
    else none
  else none

end Domain
end RequestFlow
