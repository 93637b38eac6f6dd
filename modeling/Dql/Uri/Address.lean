/-!
# Network addresses

The two numeric forms of a host. A dotted address has up to four parts, each in
decimal, octal behind a `0` or hexadecimal behind `0x`; the last part fills the
bytes that the parts before it leave. A bracketed address has eight groups of up
to four hexadecimal digits, one run of zero groups may be left out as `::`, and a
dotted decimal address may stand for the last two groups.
-/

namespace Dql.Uri

/-- Whether a character is a hexadecimal digit. -/
def isHexDigit (c : Char) : Bool :=
  c.isDigit || ('a' ≤ c && c ≤ 'f') || ('A' ≤ c && c ≤ 'F')

/-- The value of a hexadecimal digit; zero for any other character. -/
def hexValue (c : Char) : Nat :=
  if c.isDigit then c.toNat - '0'.toNat
  else if 'a' ≤ c ∧ c ≤ 'f' then c.toNat - 'a'.toNat + 10
  else if 'A' ≤ c ∧ c ≤ 'F' then c.toNat - 'A'.toNat + 10
  else 0

/-- The number that digits write in a base. -/
def valueOf (base : Nat) (digits : List Char) : Nat :=
  digits.foldl (fun n c => n * base + hexValue c) 0

/-- The pieces of a text between dots; there is always one. -/
def splitDots : List Char → List (List Char)
  | [] => [[]]
  | '.' :: rest => [] :: splitDots rest
  | c :: rest =>
    match splitDots rest with
    | [] => [[c]]
    | piece :: more => (c :: piece) :: more

/-- The number that one part of a dotted address writes; none if it writes none. -/
def dottedPart? : List Char → Option Nat
  | [] => none
  | '0' :: 'x' :: digits => hex? digits
  | '0' :: 'X' :: digits => hex? digits
  | '0' :: d :: digits =>
    if (d :: digits).all fun c => '0' ≤ c && c ≤ '7' then some (valueOf 8 (d :: digits)) else none
  | digits => if digits.all Char.isDigit then some (valueOf 10 digits) else none
where
  /-- Hexadecimal digits, none of them standing for zero. -/
  hex? (digits : List Char) : Option Nat :=
    if digits.all isHexDigit then some (valueOf 16 digits) else none

/-- Whether the last piece of a host between dots, an empty one at the end not
counted, is a number: such a host has to be a dotted address. -/
def endsInNumber (host : List Char) : Bool :=
  let isNumber (piece : List Char) : Bool :=
    (!piece.isEmpty && piece.all Char.isDigit) || (dottedPart? piece).isSome
  match (splitDots host).reverse with
  | [] :: last :: _ => isNumber last
  | [] :: [] => false
  | last :: _ => isNumber last
  | [] => false

/-- Whether numbers are the parts of a dotted address: all but the last are bytes,
and the last fits into the bytes that are left. -/
def partsFit : Nat → List Nat → Bool
  | _, [] => false
  | bytes, [last] => last < Nat.pow 256 bytes
  | bytes, n :: rest => n < 256 && partsFit (bytes - 1) rest

/-- Whether a host is a dotted address. -/
def isDottedAddress (host : List Char) : Bool :=
  let pieces := match (splitDots host).reverse with
    | [] :: rest => rest.reverse
    | all => all.reverse
  let parts := pieces.filterMap dottedPart?
  pieces.length ≤ 4 && parts.length == pieces.length && partsFit 4 parts

/-- Whether a piece is a byte in decimal, without a zero in front. -/
def isPlainByte (digits : List Char) : Bool :=
  match digits with
  | [] => false
  | ['0'] => true
  | '0' :: _ => false
  | _ => digits.all Char.isDigit && valueOf 10 digits < 256

/-- Whether a text is four bytes in plain decimal, with dots between them. -/
def isPlainDotted (cs : List Char) : Bool :=
  let pieces := splitDots cs
  pieces.length == 4 && pieces.all isPlainByte

/-- Reads groups: `count` of them are behind, `short` says whether a run was left
out, `digits` counts those of the group being read, and `start` is the text from
its first digit. Answers whether the text is a bracketed address from there on. -/
def groupsFrom (count : Nat) (short : Bool) (digits : Nat) (start : List Char) : List Char → Bool
  | [] =>
    let count := if digits = 0 then count else count + 1
    if short then count ≤ 8 else count == 8
  | ':' :: rest =>
    if digits = 0 then
      -- a second colon: a run of groups is left out here
      !short && count < 8 && groupsFrom (count + 1) true 0 rest rest
    else !rest.isEmpty && count < 8 && groupsFrom (count + 1) short 0 rest rest
  | '.' :: _ =>
    -- the group turns out to be the first byte of a dotted address
    0 < digits && count ≤ 6 && isPlainDotted start && (short || count == 6)
  | c :: rest =>
    isHexDigit c && digits < 4 && count < 8 && groupsFrom count short (digits + 1) start rest

/-- Whether a text, its brackets taken away, is a bracketed address. -/
def isBracketedAddress : List Char → Bool
  | ':' :: ':' :: rest => groupsFrom 1 true 0 rest rest
  | ':' :: _ => false
  | cs => 2 ≤ cs.length && groupsFrom 0 false 0 cs cs

end Dql.Uri
