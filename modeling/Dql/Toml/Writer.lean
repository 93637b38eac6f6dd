import Dql.Text.Join

/-!
# Writing configuration values

A string is written between double quotes if nothing in it needs an escape.
Otherwise it is written between single quotes, where nothing is an escape, or
between three quotes of a kind, if what it holds allows for that; escapes are the
last resort. A list of two items or more has one item a line, indented by four
spaces, with a comma behind each.
-/

namespace Dql.Toml

/-- The length of the longest run of a character. -/
def longestRun (c : Char) (run longest : Nat) : List Char → Nat
  | [] => longest
  | d :: rest =>
    if d = c then longestRun c (run + 1) (max longest (run + 1)) rest
    else longestRun c 0 longest rest

/-- Whether a character has to be escaped wherever it stands: a control character
other than the tab and the line feed. -/
def needsEscape (c : Char) : Bool :=
  (c.toNat < 0x20 && c != '\t' && c != '\n') || c == '\x7f'

/-- Four hexadecimal digits, upper case. -/
def hex4 (n : Nat) : List Char :=
  let digits := (Nat.toDigits 16 n).map Char.toUpper
  List.replicate (4 - digits.length) '0' ++ digits

/-- A character inside of double quotes; a line feed stays as it is if `long`. -/
def escapeChar (long : Bool) (c : Char) : List Char :=
  if c = '\\' then ['\\', '\\']
  else if c = '\x08' then ['\\', 'b']
  else if c = '\t' then ['\\', 't']
  else if c = '\n' then if long then ['\n'] else ['\\', 'n']
  else if c = '\x0c' then ['\\', 'f']
  else if c = '\r' then ['\\', 'r']
  else if needsEscape c then '\\' :: 'u' :: hex4 c.toNat
  else [c]

/-- The inside of double quotes: of a run of quotes the first `free` ones may stand
as they are, the next one is escaped. -/
def escape (long : Bool) (free run : Nat) : List Char → List Char
  | [] => []
  | '"' :: rest =>
    if run < free then '"' :: escape long free (run + 1) rest
    else '\\' :: '"' :: escape long free 0 rest
  | c :: rest => escapeChar long c ++ escape long free 0 rest

/-- A string on one line between double quotes. -/
def basic (cs : List Char) : List Char := '"' :: escape false 0 0 cs ++ ['"']

/-- The line end behind three opening quotes: there is one if the string has any. -/
def openingEnd (cs : List Char) : List Char := if cs.contains '\n' then ['\n'] else []

/-- A string between three double quotes. -/
def longBasic (cs : List Char) : List Char :=
  ['"', '"', '"'] ++ openingEnd cs ++ escape true 2 0 cs ++ ['"', '"', '"']

/-- A string between single quotes. -/
def literal (cs : List Char) : List Char := '\'' :: cs ++ ['\'']

/-- A string between three single quotes. -/
def longLiteral (cs : List Char) : List Char :=
  ['\'', '\'', '\''] ++ openingEnd cs ++ cs ++ ['\'', '\'', '\'']

/-- A string in the first form that it can be read in without escapes, else with
escapes. -/
def stringText (s : String) : String :=
  let cs := s.toList
  let control := cs.any needsEscape
  let backslash := cs.contains '\\'
  let newline := cs.contains '\n'
  let single := longestRun '\'' 0 0 cs
  let double := longestRun '"' 0 0 cs
  String.ofList <|
    if !control && !backslash && !newline && double = 0 then basic cs
    else if !control && !newline && single = 0 then literal cs
    else if !control && !backslash && double ≤ 2 then longBasic cs
    else if !control && single ≤ 2 then longLiteral cs
    else if newline then longBasic cs
    else basic cs

/-- A list of strings. -/
def listText : List String → String
  | [] => "[]"
  | [s] => "[" ++ stringText s ++ "]"
  | items => "[\n" ++ Text.join "" (items.map fun s => "    " ++ stringText s ++ ",\n") ++ "]"

end Dql.Toml
