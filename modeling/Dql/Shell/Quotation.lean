import Dql.Shell.Name

/-!
# Quoting values

A value that is shown in a list of variables, aliases or traps is written so that a script
would read it back: between single quotes, with single quotes of its own between double
quotes. The names of files in complaints are quoted only where they could be misread.
-/

namespace Dql.Shell.Quotation

/-- A value between quotes; `single` says whether single quotes are open. -/
def shownFrom (single : Bool) : Bytes → Bytes
  | [] => if single then ['\''] else ['"']
  | c :: rest =>
    if c = '\'' then
      if single then '\'' :: '"' :: c :: shownFrom false rest else c :: shownFrom false rest
    else if single then c :: shownFrom true rest
    else '"' :: '\'' :: c :: shownFrom true rest

/-- A value between quotes. -/
def shown (value : Bytes) : Bytes := '\'' :: shownFrom true value

/-! ## Names of files -/

/-- Whether a byte has no form that can be shown. -/
def isUnprintable (c : Char) : Bool := c.toNat < 0x20 || 0x7F ≤ c.toNat

/-- The letter behind a backslash that stands for a byte. -/
def letter? (c : Char) : Option Char :=
  ([('\x07', 'a'), ('\x08', 'b'), ('\t', 't'), ('\n', 'n'), ('\x0b', 'v'), ('\x0c', 'f'),
    ('\r', 'r')].find? fun e => e.1 == c).map (·.2)

/-- A byte as an escape. -/
def escape (c : Char) : Bytes :=
  match letter? c with
  | some l => ['\\', l]
  | none =>
    let digits := Nat.toDigits 8 c.toNat
    '\\' :: List.replicate (3 - digits.length) '0' ++ digits

/-- Whether a name has to be quoted because of a byte; `front` says that it is the first one
and `only` that there is no other. -/
def isTreacherous (front only : Bool) (c : Char) : Bool :=
  isUnprintable c || " !\"$&'()*:;<=>?[\\^\x60|".toList.contains c ||
    (front && (c == '#' || c == '~')) || (only && (c == '\x7b' || c == '\x7d'))

/-- Whether a byte is as safe between double quotes as between single ones. -/
def isPlain (front only : Bool) (c : Char) : Bool :=
  c.isAlphanum || " '%+,-./:]_".toList.contains c || (front && (c == '#' || c == '~')) ||
    (only && (c == '\x7b' || c == '\x7d'))

/-- A name between single quotes, escapes in quotes of their own; `escaping` says that such
quotes are open. -/
def quotedFrom (escaping : Bool) : Bytes → Bytes
  | [] => ['\'']
  | c :: rest =>
    if isUnprintable c then
      (if escaping then [] else "'$'".toList) ++ escape c ++ quotedFrom true rest
    else if c = '\'' then "'\\''".toList ++ quotedFrom false rest
    else (if escaping then "''".toList else []) ++ c :: quotedFrom false rest

/-- A name of a file as complaints show it. -/
def fileName (name : Bytes) : Bytes :=
  let only := name.length == 1
  let anyOf : (Bool → Bool → Char → Bool) → Bool := fun test =>
    name.head?.any (test true only) || name.tail.any (test false only)
  if name.isEmpty then "''".toList
  else if !anyOf isTreacherous then name
  else if name.contains '\'' && !anyOf (fun front only c => !isPlain front only c) then
    '"' :: name.flatMap (fun c => if c = ':' then ['\\', c] else [c]) ++ ['"']
  else '\'' :: quotedFrom false name

end Dql.Shell.Quotation
