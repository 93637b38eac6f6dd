import Dql.Uri.Address
import Dql.Uri.Label.Basic

/-!
# Hosts

A host is a bracketed address, or a name. In the schemes of the web a name is
percent-decoded and folded to the letters that names are compared by; what comes
out may hold no character that delimits parts of a URI, and a name that ends in a
number has to be a dotted address. In any other scheme a name is opaque and only
may not hold a delimiter.
-/

namespace Dql.Uri

/-- The characters that no host may hold. -/
def delimiters : List Char :=
  ['\x00', '\t', '\n', '\r', ' ', '#', '/', ':', '<', '>', '?', '@', '[', '\\', ']', '^', '|']

/-- Whether a character may not stand in the name of a web host: a delimiter, a
control character, or a percent sign that decoding left over. -/
def isForbiddenInName (c : Char) : Bool :=
  c.toNat ≤ 0x20 || c.toNat == 0x7F || c == '%' || delimiters.contains c

/-- Replaces each percent sign that two hexadecimal digits follow, and these, by
the byte that they write. -/
def percentDecode : List UInt8 → List UInt8
  | p :: a :: b :: rest =>
    let hi := Char.ofNat a.toNat
    let lo := Char.ofNat b.toNat
    if p = 0x25 ∧ isHexDigit hi ∧ isHexDigit lo then
      UInt8.ofNat (hexValue hi * 16 + hexValue lo) :: percentDecode rest
    else p :: percentDecode (a :: b :: rest)
  | short => short

/-- The characters that percent-decoded bytes write; none if they write none. -/
def percentDecoded? (cs : List Char) : Option (List Char) :=
  let bytes := percentDecode (String.ofList cs).toUTF8.toList
  (String.fromUTF8? ⟨bytes.toArray⟩).map String.toList

/-- The name of a web host, decoded and folded; none if it is not one. -/
def webName? (cs : List Char) : Option (List Char) := do
  let name ← Label.folded? (← percentDecoded? cs)
  if name.isEmpty || name.any isForbiddenInName || !Label.areRead (splitDots name) then none
  else some name

/-- A text in brackets without them; none if the closing one is missing. -/
def bracketed? (cs : List Char) : Option (List Char) :=
  match cs.getLast? with
  | some ']' => some (cs.drop 1).dropLast
  | _ => none

/-- Whether a text is a host of the web schemes. -/
def isWebHost (cs : List Char) : Bool :=
  if cs.head? = some '[' then
    match bracketed? cs with
    | some address => isBracketedAddress address
    | none => false
  else
    match webName? cs with
    | some name => !endsInNumber name || isDottedAddress name
    | none => false

/-- Whether a text is a host of any other scheme. -/
def isOpaqueHost (cs : List Char) : Bool :=
  if cs.head? = some '[' then
    match bracketed? cs with
    | some address => isBracketedAddress address
    | none => false
  else !cs.any delimiters.contains

end Dql.Uri
