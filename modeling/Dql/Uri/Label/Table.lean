/-!
# Tables of characters

A property of characters is given as a text of words with blanks or line breaks between
them. A word is a code in hexadecimal, or the first and the last code of a range with a
hyphen between them.
-/

namespace Dql.Uri.Label

/-- The value of a digit of a code. -/
def codeDigit (c : Char) : Nat :=
  if c.isDigit then c.toNat - '0'.toNat else c.toNat - 'A'.toNat + 10

/-- The code that hexadecimal digits write. -/
def codeOf (digits : List Char) : Nat := digits.foldl (fun n c => n * 16 + codeDigit c) 0

/-- The words of a table. -/
def words (table : String) : List (List Char) :=
  (table.toList.splitBy fun a b => (a == ' ' || a == '\n') == (b == ' ' || b == '\n')).filter
    fun w => w.head? != some ' ' && w.head? != some '\n'

/-- Characters of successive codes. -/
structure CodeRange where
  first : Nat
  last : Nat
deriving DecidableEq, Repr

namespace CodeRange

/-- The range that a word writes. -/
def ofWord (w : List Char) : CodeRange :=
  let first := codeOf (w.takeWhile (· != '-'))
  match w.dropWhile (· != '-') with
  | _ :: last => ⟨first, codeOf last⟩
  | [] => ⟨first, first⟩

/-- Whether a character is in a range. -/
def holds (r : CodeRange) (c : Char) : Bool := r.first ≤ c.toNat && c.toNat ≤ r.last

end CodeRange

/-- The ranges of a table. -/
def ranges (table : String) : List CodeRange := (words table).map CodeRange.ofWord

/-- Whether a character is in one of the ranges. -/
def isAmong (among : List CodeRange) (c : Char) : Bool := among.any fun r => r.holds c

example : ranges "41-5A 2019" = [⟨0x41, 0x5A⟩, ⟨0x2019, 0x2019⟩] := by decide +kernel

end Dql.Uri.Label
