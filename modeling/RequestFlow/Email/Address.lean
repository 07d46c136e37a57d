import RequestFlow.Domain.Name
import RequestFlow.Text.Utf8

/-!
# Email addresses

An address is a mailbox name and a domain name with an at sign between them. The mailbox name is
made of atoms with dots between them; letters of any script may occur in it. Quoted mailbox names,
display names and numeric domains are not accepted. Neither the address as it is given nor one of
its normal forms may be too long.
-/

namespace RequestFlow
namespace Email

open Text

/-- Characters of an atom: letters and digits, the signs that mail systems allow, and whatever lies
beyond ASCII. -/
def isAtomChar (character : Char) : Bool :=
  character.isAlphanum || character ∈ "_!#$%&'*+-/=?^`\x7b|\x7d~".toList || 0x80 ≤ character.toNat

/-- The greatest length of a mailbox name. -/
def mailboxLimit : Nat := 64

/-- The greatest number of bytes of an address. -/
def addressLimit : Nat := 254

/-- Whether a text is a mailbox name. -/
def isMailbox (mailbox : List Char) : Bool :=
  mailbox.length ≤ mailboxLimit &&
    (splitAt '.' mailbox).all (fun atom => !atom.isEmpty && atom.all isAtomChar) &&
    Domain.isSensible mailbox

/-- The parts of a text before and after its first at sign. -/
def splitAddress? (text : List Char) : Option (List Char × List Char) :=
  match text.dropWhile (· != '@') with
  | '@' :: domain => some (text.takeWhile (· != '@'), domain)
  | _ => none

/-- Whether an address is short enough. -/
def isShort (mailbox domain : List Char) : Bool :=
  (encodeUtf8 (mailbox ++ '@' :: domain)).length ≤ addressLimit

/-- Whether a text is an email address to which mail can be delivered. -/
def isAddress (text : List Char) : Bool :=
  match splitAddress? text with
  | none => false
  | some (mailbox, domain) =>
    let normal := composed mailbox
    isMailbox mailbox && isMailbox normal &&
      match Domain.Name.ofText? domain with
      | none => false
      | some name =>
        isShort mailbox domain && isShort normal name.international && isShort normal name.ascii

end Email
end RequestFlow
