import Dql.Double.Basic

/-!
# The decimal text of a double

A double is written with the fewest digits that still read back as it. The
reals that round to a double form an interval around it; it reaches half way to
the two neighbours, and its ends belong to it when the significand is even. For
one digit, then two, and so on, the two points of that decimal grid around the
number are tried, and the first grid with a point in the interval gives the
digits, the nearer of two points winning. Seventeen digits always suffice.

The digits are then laid out (`Double.toText`): positionally while the number is
at least 10⁻⁵ and below 10¹⁶, with a digit behind the point at least; in
scientific form beyond, the sign of the exponent always written.
-/

namespace Dql

namespace Double

/-- The reals that round to a number, in quarters of a unit of its last place:
the number itself, the two ends, and whether the ends belong. The interval is
shorter below a power of two, where the neighbour is nearer. -/
structure Interval where
  center : Nat
  low : Nat
  high : Nat
  closed : Bool
  /-- The quarter unit is two to this power. -/
  exponent : Int

/-- The interval of a number other than zero. -/
def interval (x : Double) : Interval where
  center := 4 * x.significand
  low := 4 * x.significand -
    (if x.significand = leastNormal ∧ x.exponent ≠ minExponent then 1 else 2)
  high := 4 * x.significand + 2
  closed := x.significand % 2 == 0
  exponent := x.exponent - 2

/-- Two factors `(a, b)` such that `n · 10 ^ power` compares with `k · 2 ^ exponent`
as `n · a` does with `k · b`. -/
def commonUnit (power exponent : Int) : Nat × Nat :=
  let a := if 0 ≤ power then Nat.pow 10 power.toNat else 1
  let b := if 0 ≤ power then 1 else Nat.pow 10 (-power).toNat
  if 0 ≤ exponent then (a, b * Nat.pow 2 exponent.toNat) else (a * Nat.pow 2 (-exponent).toNat, b)

/-- Whether `n` on the grid of a unit lies in the interval, in the common unit. -/
def Interval.holds (i : Interval) (grid quarter n : Nat) : Bool :=
  let p := n * grid
  if i.closed then i.low * quarter ≤ p && p ≤ i.high * quarter
  else i.low * quarter < p && p < i.high * quarter

/-- The point of the grid `10 ^ power` that reads back as the number and is
nearest to it, if there is one; of two at one distance the even one. -/
def Interval.onGrid? (i : Interval) (power : Int) : Option Nat :=
  let (grid, quarter) := commonUnit power i.exponent
  let exact := i.center * quarter
  let below := exact / grid
  let above := below + 1
  let toBelow := exact - below * grid
  let toAbove := above * grid - exact
  match i.holds grid quarter below, i.holds grid quarter above with
  | false, false => none
  | true, false => some below
  | false, true => some above
  | true, true =>
    if toBelow < toAbove then some below
    else if toAbove < toBelow then some above
    else some (if below % 2 = 0 then below else above)

/-- The least power of ten above a quotient: `10 ^ (p - 1) ≤ num / den < 10 ^ p`. -/
def decimalPower (num den : Nat) : Int :=
  if den ≤ num then ((Nat.toDigits 10 (num / den)).length : Int)
  else
    -- below one: as many places behind the point as the inverse has digits, or one less
    let places := (Nat.toDigits 10 (den / num)).length
    if den ≤ num * Nat.pow 10 (places - 1) then 2 - (places : Int) else 1 - (places : Int)

/-- Tries grids of ever more digits; `digits` counts those still to be tried. -/
def shortestFrom (i : Interval) (power : Int) : Nat → Nat × Int
  | 0 => (0, power)
  | digits + 1 =>
    match i.onGrid? power with
    | some n => (n, power)
    | none => shortestFrom i (power - 1) digits

/-- The fewest decimal digits that read back as a number other than zero, as a
natural and the power of ten of its last digit. -/
def shortest (x : Double) : Nat × Int :=
  let (num, den) := x.toRatio
  shortestFrom x.interval (decimalPower num den - 1) 17

/-- Drops trailing zeros, counting them into the power. -/
def dropZeros (digits : List Char) (power : Int) : List Char × Int :=
  let zeros := (digits.reverse.takeWhile (· == '0')).length
  (digits.take (digits.length - zeros), power + zeros)

/-- Where the positional layout ends: digits `0.d₁d₂… · 10 ^ point` are written
positionally for `low < point ≤ high`. -/
structure DecimalLayout where
  low : Int
  high : Int

/-- Positional from 10⁻⁵ on and below 10¹⁶. -/
def layout : DecimalLayout := ⟨-5, 16⟩

/-- An exponent with its sign, whichever it is. -/
def exponentText (e : Int) : List Char :=
  (if e < 0 then '-' else '+') :: Nat.toDigits 10 e.natAbs

/-- The text of the number `0.digits · 10 ^ point`, where the first digit is not zero. -/
def placePoint (digits : List Char) (point : Int) : List Char :=
  if layout.low < point ∧ point ≤ layout.high then
    if point ≤ 0 then '0' :: '.' :: List.replicate (-point).toNat '0' ++ digits
    else
      let whole := point.toNat
      if digits.length ≤ whole then
        digits ++ List.replicate (whole - digits.length) '0' ++ ['.', '0']
      else digits.take whole ++ '.' :: digits.drop whole
  else
    let mantissa := match digits with
      | first :: second :: rest => first :: '.' :: second :: rest
      | short => short
    mantissa ++ 'e' :: exponentText (point - 1)

/-- The text of a double. -/
def toText (x : Double) : List Char :=
  let magnitude :=
    if x.isZero then ['0', '.', '0']
    else
      let (n, power) := x.shortest
      let (digits, power) := dropZeros (Nat.toDigits 10 n) power
      placePoint digits (power + digits.length)
  if x.negative then '-' :: magnitude else magnitude

end Double

end Dql
