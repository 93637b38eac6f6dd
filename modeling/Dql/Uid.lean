import Dql.Text.Blank

/-!
# Node identifiers

Every node of the graph has a 64-bit identifier. Query text writes it in
hexadecimal with a `0x` in front and at least two digits (`Uid.format`). A store
may report it in hexadecimal, octal, binary or decimal, with blanks around it
(`Uid.parse?`). Reading stops at the first character that is no digit of the base
or at which the value leaves 64 bits, and that character decides which of the two
is reported.
-/

namespace Dql

/-- The identifier of a graph node. -/
abbrev Uid := UInt64

namespace Uid

/-- The hexadecimal digits of a number, lower case, without leading zeros. -/
def hexDigits (n : Nat) : List Char := Nat.toDigits 16 n

/-- An identifier as query text writes it: `0x` and at least two hexadecimal digits. -/
def format (uid : Uid) : String :=
  let digits := hexDigits uid.toNat
  String.ofList ('0' :: 'x' :: (if digits.length < 2 then '0' :: digits else digits))

/-- Why a text names no identifier. -/
inductive ParseError where
  /-- There is no digit, nor anything else, where the digits belong. -/
  | empty
  /-- A character is no digit of the base. -/
  | invalidDigit
  /-- The value does not fit into 64 bits. -/
  | tooLarge
deriving DecidableEq, Repr

/-- The wording of a reading failure. -/
def ParseError.message : ParseError → String
  | empty => "cannot parse integer from empty string"
  | invalidDigit => "invalid digit found in string"
  | tooLarge => "number too large to fit in target type"

/-- The value of a digit in a base up to thirty-six, in either case. -/
def digit? (base : Nat) (c : Char) : Option Nat :=
  let value :=
    if '0' ≤ c ∧ c ≤ '9' then c.toNat - '0'.toNat
    else if 'a' ≤ c ∧ c ≤ 'z' then c.toNat - 'a'.toNat + 10
    else if 'A' ≤ c ∧ c ≤ 'Z' then c.toNat - 'A'.toNat + 10
    else base
  if value < base then some value else none

/-- Reads digits from left to right onto `value`. A character is first checked to
be a digit, then the new value to fit. -/
def readDigits (base value : Nat) : List Char → Except ParseError Nat
  | [] => .ok value
  | c :: rest =>
    match digit? base c with
    | none => .error .invalidDigit
    | some d =>
      if value * base + d < UInt64.size then readDigits base (value * base + d) rest
      else .error .tooLarge

/-- Reads an unsigned number in a base. One plus sign may stand in front. -/
def readNumber (base : Nat) : List Char → Except ParseError Nat
  | [] => .error .empty
  | ['+'] => .error .invalidDigit
  | '+' :: digits => readDigits base 0 digits
  | digits => readDigits base 0 digits

/-- The base that a text announces, and its digits: `0x`, `0o` and `0b` in either
case stand for sixteen, eight and two; without them the base is ten. -/
def splitBase : List Char → Nat × List Char
  | '0' :: 'x' :: digits => (16, digits)
  | '0' :: 'X' :: digits => (16, digits)
  | '0' :: 'o' :: digits => (8, digits)
  | '0' :: 'O' :: digits => (8, digits)
  | '0' :: 'b' :: digits => (2, digits)
  | '0' :: 'B' :: digits => (2, digits)
  | digits => (10, digits)

/-- Reads an identifier as a store reports it, blanks around it put aside. -/
def parse? (text : String) : Except ParseError Uid :=
  let (base, digits) := splitBase (Text.trimBlank text.toList)
  (readNumber base digits).map UInt64.ofNat

/-- Reads an identifier in plain decimal, as a variable name or a map key may give
it: nothing but digits, and one plus sign in front at most. -/
def ofDecimal? (text : String) : Option Uid :=
  match readNumber 10 text.toList with
  | .ok n => some (UInt64.ofNat n)
  | .error _ => none

end Uid

end Dql
