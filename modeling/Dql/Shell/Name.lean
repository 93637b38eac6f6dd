import Dql.Bytes

/-!
# Names and numbers in scripts

A name is a letter or an underscore and then letters, digits and underscores, all of them of
ASCII. An assignment is a name with an equals sign behind it.
-/

namespace Dql.Shell

/-- Whether a name may start with a character. -/
def startsName (c : Char) : Bool := c.isAlpha || c == '_'

/-- Whether a character may stand in a name. -/
def isNameChar (c : Char) : Bool := c.isAlphanum || c == '_'

/-- Whether bytes are a name. -/
def isName : Bytes → Bool
  | [] => false
  | c :: rest => startsName c && rest.all isNameChar

/-- Splits the name that bytes start with off. -/
def splitName (bytes : Bytes) : Bytes × Bytes :=
  match bytes with
  | c :: _ => if startsName c then (bytes.takeWhile isNameChar, bytes.dropWhile isNameChar)
    else ([], bytes)
  | [] => ([], [])

/-- The blanks that separate words. -/
def isWordBlank (c : Char) : Bool := c == ' ' || c == '\t'

/-- The blanks that may stand in front of a number. -/
def isSpace (c : Char) : Bool := c == ' ' || ('\t' ≤ c && c ≤ '\r')

/-- The value of a decimal digit. -/
def digitValue (c : Char) : Nat := c.toNat - '0'.toNat

/-- The natural that decimal digits write. -/
def naturalOf (digits : Bytes) : Nat := digits.foldl (fun n c => n * 10 + digitValue c) 0

/-- The natural that bytes write if they are decimal digits and nothing else. -/
def number? (bytes : Bytes) : Option Nat :=
  if bytes.isEmpty || !bytes.all Char.isDigit then none else some (naturalOf bytes)

end Dql.Shell
