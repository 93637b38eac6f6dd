/-!
# Durations

A span of time in milliseconds, and its text: the largest of the units second,
millisecond and nanosecond in which it is at least one, with as many digits behind
the point as it needs. No time at all is written in nanoseconds.
-/

namespace Dql

/-- A span of time. -/
structure Duration where
  milliseconds : Nat
deriving DecidableEq, Repr

namespace Duration

/-- The digits behind the point for a number of thousandths, trailing zeros dropped. -/
def thousandths (n : Nat) : List Char :=
  let digits := Nat.toDigits 10 (n % 1000)
  let padded := List.replicate (3 - digits.length) '0' ++ digits
  (padded.reverse.dropWhile (· == '0')).reverse

/-- The text of a duration. -/
def toText (d : Duration) : String :=
  if d.milliseconds = 0 then "0ns"
  else if d.milliseconds < 1000 then toString d.milliseconds ++ "ms"
  else
    let behind := thousandths d.milliseconds
    toString (d.milliseconds / 1000) ++
      (if behind.isEmpty then "" else "." ++ String.ofList behind) ++ "s"

end Duration

end Dql
