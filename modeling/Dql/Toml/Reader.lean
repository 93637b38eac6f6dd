import Dql.Double.Basic
import Dql.Toml.Basic

/-!
# Reading configuration files

A file is read line by line as statements, and the statements are put together as
a table. Each function here takes the text from where it stands and answers what it
read with the text behind it, or nothing if there is no such thing; the functions
that read values take fuel, and twice the length of the text is enough, since no two
of their calls in a row leave the text as it is.
-/

namespace Dql.Toml

/-- What was read, and the text behind it. -/
abbrev Parse (α : Type) := List Char → Option (α × List Char)

/-! ## Blanks, comments, line ends -/

/-- Whether a character is a blank inside of a line. -/
def isBlank (c : Char) : Bool := c == ' ' || c == '\t'

/-- The text behind leading blanks. -/
def skipBlanks (cs : List Char) : List Char := cs.dropWhile isBlank

/-- Whether a character may stand in a comment, a tab aside. -/
def isPrintable (c : Char) : Bool := (0x20 ≤ c.toNat && c != '\x7f')

/-- The text behind a line end. -/
def lineEnd? : List Char → Option (List Char)
  | '\n' :: rest => some rest
  | '\r' :: '\n' :: rest => some rest
  | _ => none

/-- The text behind a comment, if there is one. -/
def skipComment : List Char → List Char
  | '#' :: rest => rest.dropWhile fun c => isPrintable c || c == '\t'
  | cs => cs

/-- The text of the next line; blanks and a comment may stand in front of it. -/
def finishLine? (cs : List Char) : Option (List Char) :=
  match skipComment (skipBlanks cs) with
  | [] => some []
  | cs => lineEnd? cs

/-- The text behind blanks, comments and line ends. -/
def skipLines : Nat → List Char → List Char
  | 0, cs => cs
  | fuel + 1, cs =>
    let cs := skipBlanks cs
    match lineEnd? (skipComment cs) with
    | some rest => skipLines fuel rest
    | none => cs

/-! ## Strings -/

/-- The value of hexadecimal digits; none if one of them is not. -/
def hexNumber? (cs : List Char) : Option Nat :=
  cs.foldl (fun n c => do
    let n ← n
    if c.isDigit then some (n * 16 + (c.toNat - '0'.toNat))
    else if 'a' ≤ c ∧ c ≤ 'f' then some (n * 16 + (c.toNat - 'a'.toNat + 10))
    else if 'A' ≤ c ∧ c ≤ 'F' then some (n * 16 + (c.toNat - 'A'.toNat + 10))
    else none) (some 0)

/-- The character that hexadecimal digits stand for. -/
def hexChar? (digits : List Char) : Option Char := do
  let n ← hexNumber? digits
  if n < 0xD800 ∨ (0xE000 ≤ n ∧ n < 0x110000) then some (Char.ofNat n) else none

/-- Reads what stands behind a backslash. -/
def escape? : Parse Char
  | 'u' :: a :: b :: c :: d :: rest => (hexChar? [a, b, c, d]).map (·, rest)
  | 'U' :: a :: b :: c :: d :: e :: f :: g :: h :: rest =>
    (hexChar? [a, b, c, d, e, f, g, h]).map (·, rest)
  | 'b' :: rest => some ('\x08', rest)
  | 't' :: rest => some ('\t', rest)
  | 'n' :: rest => some ('\n', rest)
  | 'f' :: rest => some ('\x0c', rest)
  | 'r' :: rest => some ('\r', rest)
  | '"' :: rest => some ('"', rest)
  | '\\' :: rest => some ('\\', rest)
  | _ => none

/-- Reads a string in double quotes, behind the first of them. -/
def basicString? : Nat → Parse (List Char)
  | 0, _ => none
  | fuel + 1, cs =>
    match cs with
    | '"' :: rest => some ([], rest)
    | '\\' :: rest => do
      let (c, rest) ← escape? rest
      let (s, rest) ← basicString? fuel rest
      return (c :: s, rest)
    | c :: rest =>
      if isPrintable c || c == '\t' then (basicString? fuel rest).map fun p => (c :: p.1, p.2)
      else none
    | [] => none

/-- Reads a string in single quotes, behind the first of them. -/
def literalString? : Parse (List Char)
  | '\'' :: rest => some ([], rest)
  | c :: rest =>
    if isPrintable c || c == '\t' then (literalString? rest).map fun p => (c :: p.1, p.2)
    else none
  | [] => none

/-- The text behind blanks and line ends. -/
def skipBlankLines : List Char → List Char
  | '\n' :: rest => skipBlankLines rest
  | '\r' :: '\n' :: rest => skipBlankLines rest
  | ' ' :: rest => skipBlankLines rest
  | '\t' :: rest => skipBlankLines rest
  | cs => cs

/-- Reads a string between three quotes of a kind, behind the first three and the
line end that may follow them. Up to two quotes may stand in front of the last three. -/
def longString? (quote : Char) : Nat → Parse (List Char)
  | 0, _ => none
  | fuel + 1, cs =>
    let quotes := (cs.takeWhile (· == quote)).length
    if 3 ≤ quotes then
      if quotes ≤ 5 then some (List.replicate (quotes - 3) quote, cs.drop quotes) else none
    else
      match cs with
      | '\n' :: rest => (longString? quote fuel rest).map fun p => ('\n' :: p.1, p.2)
      | '\r' :: '\n' :: rest => (longString? quote fuel rest).map fun p => ('\n' :: p.1, p.2)
      | '\\' :: rest =>
        if quote == '"' then
          match lineEnd? (skipBlanks rest) with
          | some next => longString? quote fuel (skipBlankLines next)
          | none => do
            let (c, rest) ← escape? rest
            let (s, rest) ← longString? quote fuel rest
            return (c :: s, rest)
        else (longString? quote fuel rest).map fun p => ('\\' :: p.1, p.2)
      | c :: rest =>
        if isPrintable c || c == '\t' then
          (longString? quote fuel rest).map fun p => (c :: p.1, p.2)
        else none
      | [] => none

/-- The text behind the line end that may follow three quotes. -/
def skipFirstLineEnd (cs : List Char) : List Char := (lineEnd? cs).getD cs

/-- Reads a string of any form. -/
def string? (cs : List Char) : Option (String × List Char) :=
  let found := match cs with
    | '"' :: '"' :: '"' :: rest => longString? '"' (rest.length + 1) (skipFirstLineEnd rest)
    | '\'' :: '\'' :: '\'' :: rest => longString? '\'' (rest.length + 1) (skipFirstLineEnd rest)
    | '"' :: rest => basicString? (rest.length + 1) rest
    | '\'' :: rest => literalString? rest
    | _ => none
  found.map fun p => (String.ofList p.1, p.2)

/-! ## Keys -/

/-- Whether a character may stand in a name without quotes. -/
def isNameChar (c : Char) : Bool := c.isAlphanum || c == '_' || c == '-'

/-- Reads a name. -/
def name? (cs : List Char) : Option (String × List Char) :=
  match cs with
  | '"' :: rest => (basicString? (rest.length + 1) rest).map fun p => (String.ofList p.1, p.2)
  | '\'' :: rest => (literalString? rest).map fun p => (String.ofList p.1, p.2)
  | _ =>
    let name := cs.takeWhile isNameChar
    if name.isEmpty then none else some (String.ofList name, cs.dropWhile isNameChar)

/-- Reads names with dots between them. -/
def names? : Nat → Parse (List String)
  | 0, _ => none
  | fuel + 1, cs => do
    let (name, rest) ← name? (skipBlanks cs)
    match skipBlanks rest with
    | '.' :: rest =>
      let (path, rest) ← names? fuel rest
      return (name :: path, rest)
    | rest => return ([name], rest)

/-- Values nest fewer than so many deep, and paths have fewer names. -/
def depthLimit : Nat := 80

/-- Reads a path of names. -/
def path? (cs : List Char) : Option (List String × List Char) := do
  let (path, rest) ← names? cs.length cs
  if path.length < depthLimit then some (path, rest) else none

/-! ## Numbers and points in time -/

/-- Reads digits, single underscores between them allowed. -/
def digits? (isDigit : Char → Bool) : Parse (List Char)
  | c :: '_' :: rest =>
    if isDigit c then (digits? isDigit rest).map fun p => (c :: p.1, p.2) else none
  | c :: d :: rest =>
    if isDigit c then
      if isDigit d then (digits? isDigit (d :: rest)).map fun p => (c :: p.1, p.2)
      else some ([c], d :: rest)
    else none
  | [c] => if isDigit c then some ([c], []) else none
  | [] => none

/-- Reads whole digits: a zero stands alone. -/
def wholeDigits? : Parse (List Char)
  | '0' :: rest => some (['0'], rest)
  | cs => digits? Char.isDigit cs

/-- Splits a sign off; whether it is a minus. -/
def splitSign : List Char → Bool × List Char
  | '-' :: rest => (true, rest)
  | '+' :: rest => (false, rest)
  | cs => (false, cs)

/-- The natural that digits write in a base. -/
def natural (base : Nat) (digits : List Char) : Nat :=
  digits.foldl (fun n c => n * base + (hexNumber? [c]).getD 0) 0

/-- Reads a power of ten, with the letter in front. -/
def power? : Parse Int
  | c :: rest =>
    if c = 'e' ∨ c = 'E' then
      let (minus, rest) := splitSign rest
      (digits? Char.isDigit rest).map fun p =>
        (if minus then -(natural 10 p.1 : Int) else (natural 10 p.1 : Int), p.2)
    else none
  | [] => none

/-- Reads the digits behind a point, with the point. -/
def fraction? : Parse (List Char)
  | '.' :: rest => digits? Char.isDigit rest
  | _ => none

/-- Reads a decimal with a fraction or a power: its digits, the power of ten of the last of
them, and what follows. -/
def decimal? (cs : List Char) : Option (Nat × Int × List Char) := do
  let (whole, rest) ← wholeDigits? cs
  match fraction? rest with
  | some (fraction, rest) =>
    let (power, rest) := (power? rest).getD (0, rest)
    return (natural 10 (whole ++ fraction), power - fraction.length, rest)
  | none =>
    let (power, rest) ← power? rest
    return (natural 10 whole, power, rest)

/-- The text behind a number that is not written as an integer, and whether it may stand
there: a number beyond the largest double may only with a minus in front. -/
def float? (cs : List Char) : Option (Bool × List Char) :=
  match splitSign cs with
  | (_, 'i' :: 'n' :: 'f' :: rest) => some (true, rest)
  | (_, 'n' :: 'a' :: 'n' :: rest) => some (true, rest)
  | (minus, cs) => (decimal? cs).map fun (n, power, rest) =>
    (minus || Double.isWithin n power, rest)

/-- Whether a character is an octal digit. -/
def isOctal (c : Char) : Bool := '0' ≤ c && c ≤ '7'

/-- Whether a character is a binary digit. -/
def isBinary (c : Char) : Bool := c == '0' || c == '1'

/-- Whether a character is a hexadecimal digit. -/
def isHex (c : Char) : Bool := (hexNumber? [c]).isSome

/-- Reads an integer; it has to fit into 64 bits with sign. -/
def integer? (cs : List Char) : Option (Int × List Char) := do
  let (n, rest) ← match cs with
    | '0' :: 'x' :: rest => (digits? isHex rest).map fun p => ((natural 16 p.1 : Int), p.2)
    | '0' :: 'o' :: rest => (digits? isOctal rest).map fun p => ((natural 8 p.1 : Int), p.2)
    | '0' :: 'b' :: rest => (digits? isBinary rest).map fun p => ((natural 2 p.1 : Int), p.2)
    | _ =>
      let (minus, cs) := splitSign cs
      (wholeDigits? cs).map fun p =>
        (if minus then -(natural 10 p.1 : Int) else (natural 10 p.1 : Int), p.2)
  if Int64.minValue.toInt ≤ n ∧ n ≤ Int64.maxValue.toInt then some (n, rest) else none

/-- Reads exactly so many digits as a number. -/
def fixed? (count : Nat) (cs : List Char) : Option (Nat × List Char) :=
  let digits := cs.take count
  if digits.length = count ∧ digits.all Char.isDigit then
    some (natural 10 digits, cs.drop count)
  else none

/-- The text behind a character. -/
def behind? (c : Char) : List Char → Option (List Char)
  | d :: rest => if d = c then some rest else none
  | [] => none

/-- How many days a month has. -/
def daysIn (year month : Nat) : Nat :=
  if month = 2 then
    if year % 4 = 0 ∧ (year % 100 ≠ 0 ∨ year % 400 = 0) then 29 else 28
  else if [4, 6, 9, 11].contains month then 30
  else 31

/-- The text behind a date. -/
def date? (cs : List Char) : Option (List Char) := do
  let (year, cs) ← fixed? 4 cs
  let (month, cs) ← fixed? 2 (← behind? '-' cs)
  let (day, cs) ← fixed? 2 (← behind? '-' cs)
  if 1 ≤ month ∧ month ≤ 12 ∧ 1 ≤ day ∧ day ≤ daysIn year month then some cs else none

/-- The text behind a time of day. -/
def time? (cs : List Char) : Option (List Char) := do
  let (hour, cs) ← fixed? 2 cs
  let (minute, cs) ← fixed? 2 (← behind? ':' cs)
  let (second, cs) ← fixed? 2 (← behind? ':' cs)
  if hour ≤ 23 ∧ minute ≤ 59 ∧ second ≤ 60 then
    match cs with
    | '.' :: rest =>
      if (rest.takeWhile Char.isDigit).isEmpty then none else some (rest.dropWhile Char.isDigit)
    | cs => some cs
  else none

/-- The text behind an offset from universal time. -/
def offset? : List Char → Option (List Char)
  | c :: rest =>
    if c = 'Z' ∨ c = 'z' then some rest
    else if c = '+' ∨ c = '-' then do
      let (hour, cs) ← fixed? 2 rest
      let (minute, cs) ← fixed? 2 (← behind? ':' cs)
      if hour ≤ 23 ∧ minute ≤ 59 then some cs else none
    else none
  | [] => none

/-- The text behind a time that follows a date, with its offset. -/
def timeBehindDate? : List Char → Option (List Char)
  | c :: rest =>
    if c = 'T' ∨ c = 't' ∨ c = ' ' then (time? rest).map fun cs => (offset? cs).getD cs else none
  | [] => none

/-- The text behind a date, a time, or both. -/
def dateTime? (cs : List Char) : Option (List Char) :=
  match date? cs with
  | some cs => some ((timeBehindDate? cs).getD cs)
  | none => time? cs

/-- Reads a number or a point in time. -/
def scalar? (cs : List Char) : Option (Value × List Char) :=
  match dateTime? cs, float? cs, integer? cs with
  | some rest, _, _ => some (.dateTime, rest)
  | none, some (allowed, rest), _ => if allowed then some (.float, rest) else none
  | none, none, some (n, rest) => some (.integer n, rest)
  | none, none, none => none

/-! ## Values -/

mutual

/-- Reads a value inside of `depth` others. -/
def value? (depth : Nat) : Nat → Parse Value
  | 0, _ => none
  | fuel + 1, cs =>
    match cs with
    | '"' :: _ => (string? cs).map fun p => (.string p.1, p.2)
    | '\'' :: _ => (string? cs).map fun p => (.string p.1, p.2)
    | '[' :: rest =>
      if depth + 1 < depthLimit then
        (items? (depth + 1) fuel rest).map fun p => (.array p.1, p.2)
      else none
    | '\x7b' :: rest =>
      if depth + 1 < depthLimit then do
        let (assignments, rest) ← match skipBlanks rest with
          | '\x7d' :: rest => some ([], rest)
          | rest => assignments? (depth + 1) fuel rest
        let entries ← ofAssignments? [] assignments
        return (.table .inline entries, rest)
      else none
    | 't' :: 'r' :: 'u' :: 'e' :: rest => some (.boolean true, rest)
    | 'f' :: 'a' :: 'l' :: 's' :: 'e' :: rest => some (.boolean false, rest)
    | _ => scalar? cs

/-- Reads the items of a list, up to its closing bracket. -/
def items? (depth : Nat) : Nat → Parse (List Value)
  | 0, _ => none
  | fuel + 1, cs =>
    match skipLines cs.length cs with
    | ']' :: rest => some ([], rest)
    | cs => do
      let (item, rest) ← value? depth fuel cs
      match skipLines rest.length rest with
      | ',' :: rest => (items? depth fuel rest).map fun p => (item :: p.1, p.2)
      | ']' :: rest => some ([item], rest)
      | _ => none

/-- Reads the assignments of an inline table, up to its closing brace. -/
def assignments? (depth : Nat) : Nat → Parse (List (List String × Value))
  | 0, _ => none
  | fuel + 1, cs => do
    let (path, rest) ← path? cs
    let (value, rest) ← value? depth fuel (skipBlanks (← behind? '=' rest))
    match skipBlanks rest with
    | ',' :: rest => (assignments? depth fuel rest).map fun p => ((path, value) :: p.1, p.2)
    | '\x7d' :: rest => some ([(path, value)], rest)
    | _ => none

end

/-! ## Statements -/

/-- Reads a header of either kind, behind its first bracket. -/
def header? (cs : List Char) : Option (Statement × List Char) :=
  match cs with
  | '[' :: rest => do
    let (path, rest) ← path? rest
    match rest with
    | ']' :: ']' :: rest => some (.arrayHeader path, rest)
    | _ => none
  | _ => do
    let (path, rest) ← path? cs
    let rest ← behind? ']' rest
    some (.header path, rest)

/-- Reads an assignment. -/
def assignment? (cs : List Char) : Option (Statement × List Char) := do
  let (path, rest) ← path? cs
  let (value, rest) ← value? 0 (2 * cs.length + 2) (skipBlanks (← behind? '=' rest))
  return (.assign path value, rest)

/-- Reads statements to the end of the text. -/
def statements? : Nat → List Char → Option (List Statement)
  | 0, cs => if cs.isEmpty then some [] else none
  | fuel + 1, cs =>
    match skipBlanks cs with
    | [] => some []
    | '[' :: rest => do
      let (statement, rest) ← header? rest
      let statements ← statements? fuel (← finishLine? rest)
      return statement :: statements
    | '#' :: rest => do statements? fuel (← finishLine? ('#' :: rest))
    | c :: rest =>
      match lineEnd? (c :: rest) with
      | some rest => statements? fuel rest
      | none => do
        let (statement, rest) ← assignment? (c :: rest)
        let statements ← statements? fuel (← finishLine? rest)
        return statement :: statements

/-- The text without the mark that may stand at the beginning of a file. -/
def skipMark : List Char → List Char
  | '\ufeff' :: rest => rest
  | cs => cs

/-- Reads a configuration file. -/
def ofText? (text : String) : Option Entries := do
  let cs := skipMark text.toList
  ofStatements? (← statements? (cs.length + 1) cs)

end Dql.Toml
