import Dql.Double.Decimal
import Dql.Shell.Name

/-!
# Numerals

A number is read from the front of bytes, behind blanks and a sign. An integer may be
decimal, octal behind a zero, hexadecimal behind `0x` or binary behind `0b`; a decimal may have
a fraction and a power of ten. What is read is answered with the bytes behind it, so that a
caller can tell whether all of them were a number.
-/

namespace Dql.Shell

namespace Numeral

/-- The value of a digit of any base. -/
def digit? (base : Nat) (c : Char) : Option Nat :=
  let value :=
    if c.isDigit then c.toNat - '0'.toNat
    else if 'a' ≤ c ∧ c ≤ 'z' then c.toNat - 'a'.toNat + 10
    else if 'A' ≤ c ∧ c ≤ 'Z' then c.toNat - 'A'.toNat + 10
    else base
  if value < base then some value else none

/-- The natural that the leading digits write, their number, and what follows. -/
def digits (base : Nat) : Nat → Bytes → Nat × Nat × Bytes
  | value, [] => (value, 0, [])
  | value, c :: rest =>
    match digit? base c with
    | some d =>
      let (value, count, rest) := digits base (value * base + d) rest
      (value, count + 1, rest)
    | none => (value, 0, c :: rest)

/-- The base of an integer, and its digits. -/
def base (bytes : Bytes) : Nat × Bytes :=
  match bytes with
  | '0' :: c :: d :: rest =>
    if (c = 'x' ∨ c = 'X') ∧ (digit? 16 d).isSome then (16, d :: rest)
    else if (c = 'b' ∨ c = 'B') ∧ (digit? 2 d).isSome then (2, d :: rest)
    else (8, bytes)
  | '0' :: _ => (8, bytes)
  | _ => (10, bytes)

/-- Splits a sign off. -/
def sign : Bytes → Bool × Bytes
  | '-' :: rest => (true, rest)
  | '+' :: rest => (false, rest)
  | rest => (false, rest)

/-- Reads an integer. If there is none, nothing is passed over. -/
def integer (decimal : Bool) (bytes : Bytes) : Int × Bytes :=
  let (negative, unsigned) := sign (bytes.dropWhile isSpace)
  let (radix, rest) := if decimal then (10, unsigned) else base unsigned
  let (value, count, rest) := digits radix 0 rest
  if count = 0 then (0, bytes) else (if negative then -(value : Int) else value, rest)

/-- The least and the greatest integer of 64 bits. -/
def least : Int := Int64.minValue.toInt

@[inherit_doc least]
def greatest : Int := Int64.maxValue.toInt

/-- The integer that bytes write with nothing behind it but blanks, if it has 64 bits. -/
def whole? (decimal : Bool) (bytes : Bytes) : Option Int :=
  let (value, rest) := integer decimal bytes
  let nothing := decimal && rest.length == bytes.length
  if nothing || !rest.all isSpace || value < least || greatest < value then none else some value

end Numeral

/-- A number that is written with a fraction or a power, or is none. -/
inductive Real where
  | finite (x : Double)
  | infinite (negative : Bool)
  | undefined (negative : Bool)
deriving DecidableEq, Repr

namespace Real

/-- The bytes behind a word in letters of either case. -/
def behindWord? : List Char → Bytes → Option Bytes
  | [], rest => some rest
  | c :: word, d :: rest => if d.toLower = c then behindWord? word rest else none
  | _ :: _, [] => none

/-- Reads a power behind a letter; zero if there is none. -/
def power (letter : Char) (bytes : Bytes) : Int × Bytes :=
  match bytes with
  | c :: rest =>
    if c.toLower = letter then
      let (negative, unsigned) := Numeral.sign rest
      let (value, count, rest) := Numeral.digits 10 0 unsigned
      if count = 0 then (0, bytes) else (if negative then -(value : Int) else value, rest)
    else (0, bytes)
  | [] => (0, [])

/-- Below this power of ten every number is zero. -/
def leastPower : Int := -400

/-- The number `n · 10 ^ power`. -/
def ofDecimal (negative : Bool) (n : Nat) (power : Int) : Real :=
  if n = 0 ∨ ((Nat.toDigits 10 n).length : Int) + power < leastPower then
    .finite (.zero negative)
  else if !Double.isWithin n power then .infinite negative
  else
    match if 0 ≤ power then Double.ofRatio? negative (n * Nat.pow 10 power.toNat) 1
      else Double.ofRatio? negative n (Nat.pow 10 (-power).toNat) with
    | some x => .finite x
    | none => .infinite negative

/-- The number `n · 2 ^ power`. -/
def ofBinary (negative : Bool) (n : Nat) (power : Int) : Real :=
  if n = 0 ∨ (n.log2 : Int) + power < leastPower * 4 then .finite (.zero negative)
  else if 1024 < (n.log2 : Int) + power then .infinite negative
  else
    match if 0 ≤ power then Double.ofRatio? negative (n * Nat.pow 2 power.toNat) 1
      else Double.ofRatio? negative n (Nat.pow 2 (-power).toNat) with
    | some x => .finite x
    | none => .infinite negative

/-- Reads digits with a point among them: the natural they write without it, the number of
those behind it, and the number of all. -/
def mantissa (base : Nat) (bytes : Bytes) : Nat × Nat × Nat × Bytes :=
  let (whole, count, rest) := Numeral.digits base 0 bytes
  match rest with
  | '.' :: behind =>
    let (n, places, rest') := Numeral.digits base whole behind
    if count + places = 0 then (0, 0, 0, bytes) else (n, places, count + places, rest')
  | _ => (whole, 0, count, rest)

/-- Reads a number behind its sign; none if there is none. -/
def unsigned? (negative : Bool) (bytes : Bytes) : Option (Real × Bytes) :=
  match behindWord? "infinity".toList bytes, behindWord? "inf".toList bytes,
    behindWord? "nan".toList bytes with
  | some rest, _, _ => some (.infinite negative, rest)
  | none, some rest, _ => some (.infinite negative, rest)
  | none, none, some rest => some (.undefined negative, rest)
  | none, none, none =>
    match bytes with
    | '0' :: c :: rest =>
      let (n, places, count, behind) := mantissa 16 rest
      if (c = 'x' ∨ c = 'X') ∧ count ≠ 0 then
        let (p, behind) := power 'p' behind
        some (ofBinary negative n (p - 4 * places), behind)
      else decimal? negative bytes
    | _ => decimal? negative bytes
where
  /-- Reads a decimal. -/
  decimal? (negative : Bool) (bytes : Bytes) : Option (Real × Bytes) :=
    let (n, places, count, behind) := mantissa 10 bytes
    if count = 0 then none
    else
      let (p, behind) := power 'e' behind
      some (ofDecimal negative n (p - places), behind)

/-- Reads a number. If there is none, nothing is passed over. -/
def read (bytes : Bytes) : Real × Bytes :=
  let (negative, rest) := Numeral.sign (bytes.dropWhile isSpace)
  (unsigned? negative rest).getD (.finite (.zero false), bytes)

end Real

end Dql.Shell
