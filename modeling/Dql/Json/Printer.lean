import Dql.Double.Decimal
import Dql.Json.Basic
import Dql.Uid

/-!
# Writing JSON

A value is written compactly, without a blank between its parts, or over several
lines with two spaces for each level (`Json.pretty`); an empty list or object
stays on one line. Members are written in the order in which the value lists
them. A string escapes the quote, the backslash and the control characters, by
letter where JSON has one and in hexadecimal elsewhere; all else is written as
it is.
-/

namespace Dql

/-- The text of a number: digits of an integer, the shortest decimal of a double. -/
def Number.toText : Number → List Char
  | int n => if n < 0 then '-' :: Nat.toDigits 10 n.natAbs else Nat.toDigits 10 n.natAbs
  | double x => x.toText

namespace Json

/-- How a character is written inside a string. -/
def escapeChar (c : Char) : List Char :=
  if c = '"' then ['\\', '"']
  else if c = '\\' then ['\\', '\\']
  else if c = '\x08' then ['\\', 'b']
  else if c = '\x0c' then ['\\', 'f']
  else if c = '\n' then ['\\', 'n']
  else if c = '\r' then ['\\', 'r']
  else if c = '\t' then ['\\', 't']
  else if c.toNat < 0x20 then
    let digits := Uid.hexDigits c.toNat
    '\\' :: 'u' :: List.replicate (4 - digits.length) '0' ++ digits
  else [c]

/-- A string between its quotes. -/
def quote (s : String) : String :=
  String.ofList ('"' :: s.toList.flatMap escapeChar ++ ['"'])

/-- The text of a scalar; a container has none of its own. -/
def scalarText : Json → String
  | null => "null"
  | bool true => "true"
  | bool false => "false"
  | number n => String.ofList n.toText
  | string s => quote s
  | array _ => "[]"
  | object _ => "\x7b\x7d"

mutual

/-- The value on one line, without blanks. -/
def compact : Json → String
  | array items => "[" ++ compactItems items ++ "]"
  | object members => "\x7b" ++ compactMembers members ++ "\x7d"
  | scalar => scalar.scalarText

/-- Values with commas between them. -/
def compactItems : List Json → String
  | [] => ""
  | [x] => x.compact
  | x :: y :: rest => x.compact ++ "," ++ compactItems (y :: rest)

/-- Members with commas between them. -/
def compactMembers : List (String × Json) → String
  | [] => ""
  | [(k, x)] => quote k ++ ":" ++ x.compact
  | (k, x) :: m :: rest => quote k ++ ":" ++ x.compact ++ "," ++ compactMembers (m :: rest)

end

/-- A line break and the spaces in front of a part at a nesting level. -/
def newline (level : Nat) : String := String.ofList ('\n' :: List.replicate (2 * level) ' ')

mutual

/-- The value over several lines, its own parts one level deeper than `level`. -/
def prettyAt (level : Nat) : Json → String
  | array (x :: rest) => "[" ++ prettyItems (level + 1) (x :: rest) ++ newline level ++ "]"
  | object (m :: rest) => "\x7b" ++ prettyMembers (level + 1) (m :: rest) ++ newline level ++ "\x7d"
  | scalar => scalar.scalarText

/-- Values on lines of their own, a comma behind each but the last. -/
def prettyItems (level : Nat) : List Json → String
  | [] => ""
  | [x] => newline level ++ x.prettyAt level
  | x :: y :: rest => newline level ++ x.prettyAt level ++ "," ++ prettyItems level (y :: rest)

/-- Members on lines of their own, a comma behind each but the last. -/
def prettyMembers (level : Nat) : List (String × Json) → String
  | [] => ""
  | [(k, x)] => newline level ++ quote k ++ ": " ++ x.prettyAt level
  | (k, x) :: m :: rest =>
    newline level ++ quote k ++ ": " ++ x.prettyAt level ++ "," ++ prettyMembers level (m :: rest)

end

/-- The value over several lines, two spaces a level. -/
def pretty (j : Json) : String := j.prettyAt 0

end Json

end Dql
