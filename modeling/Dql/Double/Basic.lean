/-!
# Double-precision numbers

A number in double precision is a sign, a significand below 2⁵³ and a power of
two. It is kept here as these three parts, so that reading, scaling and printing
are exact arithmetic on naturals, rounded once at the end of each step. Values
that are not finite do not occur: what is too large to round has no double
(`ofRatio?` answers `none`).

The parts are normal: a significand is at least 2⁵² unless the exponent is the
lowest one, so a number other than zero is written in one way only, and two
doubles are the same number exactly when their parts agree or both are zero
(`Double.same`).
-/

namespace Dql

/-- A finite number in double precision: `± significand · 2 ^ exponent`. -/
structure Double where
  /-- Whether a minus sign stands in front, also in front of zero. -/
  negative : Bool
  /-- Below 2⁵³; below 2⁵² only at the lowest exponent. -/
  significand : Nat
  /-- Between -1074 and 971. -/
  exponent : Int
deriving DecidableEq, Repr

namespace Double

/-- The lowest exponent, that of zero and of the smallest numbers. -/
def minExponent : Int := -1074

/-- The highest exponent. -/
def maxExponent : Int := 971

/-- The least significand above the lowest exponent, 2⁵². -/
def leastNormal : Nat := 0x10000000000000

/-- Zero with a sign. -/
def zero (negative : Bool) : Double := ⟨negative, 0, minExponent⟩

/-- Whether a number is zero, of either sign. -/
def isZero (x : Double) : Bool := x.significand == 0

/-- The same number: zero is one number whatever its sign. -/
def same (x y : Double) : Bool := (x.isZero && y.isZero) || x == y

/-- A quotient rounded to the nearest natural, a half to the even neighbour. -/
def roundHalfEven (num den : Nat) : Nat :=
  let low := num / den
  let twice := 2 * (num % den)
  if twice < den then low
  else if den < twice then low + 1
  else low + low % 2

/-- `num / den` without the factor `2 ^ exponent`, as a quotient. -/
def scaleDown (num den : Nat) (exponent : Int) : Nat × Nat :=
  match exponent with
  | .ofNat k => (num, den * Nat.pow 2 k)
  | .negSucc k => (num * Nat.pow 2 (k + 1), den)

/-- The exponent of the highest power of two that is no more than `num / den`. -/
def ratioLog (num den : Nat) : Int :=
  let guess : Int := (num.log2 : Int) - (den.log2 : Int)
  let (n, d) := scaleDown num den guess
  if d ≤ n then guess else guess - 1

/-- The double nearest to `± num / den`, a half to the even neighbour; none if
that is beyond the largest one. -/
def ofRatio? (negative : Bool) (num den : Nat) : Option Double :=
  if num = 0 then some (zero negative)
  else
    let exponent := max (ratioLog num den - 52) minExponent
    let (n, d) := scaleDown num den exponent
    let significand := roundHalfEven n d
    -- rounding up can fill the next power of two
    let (significand, exponent) :=
      if significand = leastNormal * 2 then (leastNormal, exponent + 1) else (significand, exponent)
    if exponent ≤ maxExponent then some ⟨negative, significand, exponent⟩ else none

/-- The magnitude of a number as a quotient. -/
def toRatio (x : Double) : Nat × Nat :=
  match x.exponent with
  | .ofNat k => (x.significand * Nat.pow 2 k, 1)
  | .negSucc k => (x.significand, Nat.pow 2 (k + 1))

/-- The double nearest to a natural number. -/
def ofNat? (n : Nat) : Option Double := ofRatio? false n 1

/-- The double nearest to the product with a power of ten that is itself rounded to a double. -/
def timesPowerOfTen? (x : Double) (power : Nat) : Option Double := do
  let p ← ofNat? (Nat.pow 10 power)
  let (n, d) := x.toRatio
  let (n', d') := p.toRatio
  ofRatio? x.negative (n * n') (d * d')

/-- The double nearest to the quotient by a power of ten that is itself rounded to a double. -/
def overPowerOfTen? (x : Double) (power : Nat) : Option Double := do
  let p ← ofNat? (Nat.pow 10 power)
  let (n, d) := x.toRatio
  let (n', d') := p.toRatio
  ofRatio? x.negative (n * d') (d * n')

/-- The power of ten next above the largest double. -/
def decimalBound : Int := 309

/-- Whether `n · 10 ^ power` rounds to a double and is not beyond the largest one. Far from
the bound the number of digits decides, whatever the power. -/
def isWithin (n : Nat) (power : Int) : Bool :=
  let size := ((Nat.toDigits 10 n).length : Int) + power
  if n = 0 ∨ size < decimalBound then true
  else if decimalBound < size then false
  else if 0 ≤ power then (ofNat? (n * Nat.pow 10 power.toNat)).isSome
  else (ofRatio? false n (Nat.pow 10 (-power).toNat)).isSome

/-- The number with the other sign. -/
def neg (x : Double) : Double := { x with negative := !x.negative }

end Double

end Dql
