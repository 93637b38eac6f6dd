import Dql.Json.Basic

/-!
# Number literals

A literal is a sign, whole digits, and optionally digits behind a point and a
power of ten. Its number is the exact integer if it has neither point nor power
and fits into 64 bits, signed or unsigned. Any other literal is a double, found
in a fixed order of roundings: the leading digits are gathered into a natural
below 2⁶⁴ as far as they fit, that natural is rounded to a double, and the double
is scaled by the power of ten that remains. A literal beyond the largest double
has no number.
-/

namespace Dql

/-- A number as written, its digits as numbers from zero to nine. -/
structure NumberLiteral where
  negative : Bool
  /-- The digits in front of the point. -/
  whole : List Nat
  /-- The digits behind the point, if there is one. -/
  fraction : Option (List Nat)
  /-- Whether the power is negative, and its digits, if there is one. -/
  power : Option (Bool × List Nat)
deriving DecidableEq, Repr

namespace NumberLiteral

/-- The bound of the natural that leading digits are gathered into. -/
def gatherBound : Nat := UInt64.size

/-- Gathers digits onto a natural while it stays below the bound. Answers the
natural, the number of digits taken, and the number of those left over. -/
def gather (value : Nat) : List Nat → Nat × Nat × Nat
  | [] => (value, 0, 0)
  | d :: rest =>
    if value * 10 + d < gatherBound then
      let (value, taken, left) := gather (value * 10 + d) rest
      (value, taken + 1, left)
    else (value, 0, rest.length + 1)

/-- The natural that decimal digits write. -/
def naturalOf (digits : List Nat) : Nat := digits.foldl (fun n d => n * 10 + d) 0

/-- The highest power of ten that a double is scaled by in one step. -/
def scaleStep : Nat := 308

/-- Scales a double by a power of ten. Dividing goes in steps, each of them
rounded; once zero is reached it stays. -/
def scale? (x : Double) (power : Int) : Option Double :=
  if 0 ≤ power then
    if x.isZero then some x
    else if power ≤ scaleStep then x.timesPowerOfTen? power.toNat
    else none
  else if -power ≤ scaleStep then x.overPowerOfTen? (-power).toNat
  else if x.isZero then some x
  else do
    let y ← x.overPowerOfTen? scaleStep
    scale? y (power + scaleStep)
termination_by (-power).toNat
decreasing_by
  simp only [scaleStep] at *
  omega

/-- The largest power that is counted; beyond it only the sign of the power matters. -/
def powerBound : Nat := Nat.pow 2 31

/-- The double of a literal, without its sign: leading digits gathered, rounded, scaled. -/
def magnitude? (l : NumberLiteral) : Option Double :=
  let (value, _, more) := gather 0 l.whole
  let (value, places, _) := gather value (l.fraction.getD [])
  let shift : Int := (more : Int) - places
  match l.power with
  | none => do scale? (← Double.ofNat? value) shift
  | some (down, digits) =>
    let power := naturalOf digits
    if power < powerBound then do
      scale? (← Double.ofNat? value) (if down then shift - power else shift + power)
    else if value = 0 ∨ down then some (Double.zero false)
    else none

/-- The number of a literal; none if it is beyond the largest double. -/
def number? (l : NumberLiteral) : Option Number :=
  let exact : Option Int :=
    if l.fraction.isNone ∧ l.power.isNone then
      let n := naturalOf l.whole
      if l.negative then
        if 0 < n ∧ n ≤ Nat.pow 2 63 then some (-(n : Int)) else none
      else if n < UInt64.size then some n
      else none
    else none
  match exact with
  | some n => some (.int n)
  | none => l.magnitude?.map fun x => .double (if l.negative then x.neg else x)

end NumberLiteral

end Dql
