/-!
# Encoded labels

A label of a host that holds letters beyond ASCII may be given in ASCII, behind
`xn--`. Its plain characters come first, up to the last hyphen; behind it, numbers
of variable length say one by one which character is inserted next and where.
`decode?` undoes this. Each number takes at least one character of the label, so
the walk goes once over it.
-/

namespace Dql.Uri.Punycode

/-- The value of a digit, letters first. -/
def digit? (c : Char) : Option Nat :=
  if 'a' ≤ c ∧ c ≤ 'z' then some (c.toNat - 'a'.toNat)
  else if 'A' ≤ c ∧ c ≤ 'Z' then some (c.toNat - 'A'.toNat)
  else if '0' ≤ c ∧ c ≤ '9' then some (c.toNat - '0'.toNat + 26)
  else none

/-- The threshold of a digit place. -/
def threshold (place bias : Nat) : Nat :=
  if place ≤ bias then 1 else if bias + 26 ≤ place then 26 else place - bias

/-- Divides by 35 until the value is at most 455, counting 36 each time. -/
def reduce (delta places : Nat) : Nat × Nat :=
  if 455 < delta then reduce (delta / 35) (places + 36) else (delta, places)
termination_by delta
decreasing_by omega

/-- The bias for the next number, from the distance that the last one covered. -/
def adapt (delta count : Nat) (first : Bool) : Nat :=
  let halved := if first then delta / 700 else delta / 2
  let (rest, places) := reduce (halved + halved / count) 0
  places + 36 * rest / (rest + 38)

/-- What has been decoded: the characters, the next code point, the place of the
last insertion, and the bias. -/
structure State where
  output : List Nat
  code : Nat
  place : Nat
  bias : Nat

/-- Whether a number is the code of a character. -/
def isScalar (n : Nat) : Bool := n < 0xD800 || (0xE000 ≤ n && n < 0x110000)

/-- The state after a number that moves the insertion on to `index`. -/
def insert? (s : State) (index : Nat) : Option State :=
  let count := s.output.length + 1
  let code := s.code + index / count
  let place := index % count
  if isScalar code then
    some {
      output := s.output.take place ++ code :: s.output.drop place
      code := code
      place := place + 1
      bias := adapt (index - s.place) count (s.place == 0) }
  else none

/-- Reads the digits of the numbers. A number is the sum of its digits, each
weighted; `index` is that sum so far, onto the place of the last insertion, and
`k` is the place of the next digit, or none between two numbers. -/
def digits (s : State) (k : Option Nat) (index weight : Nat) : List Char → Option State
  | [] => if k.isNone then some s else none
  | c :: rest =>
    match digit? c with
    | none => none
    | some d =>
      let place := k.getD 36
      let index := index + d * weight
      let t := threshold place s.bias
      if UInt32.size ≤ index then none
      else if d < t then
        match insert? s index with
        | none => none
        | some s' => digits s' none s'.place 1 rest
      else digits s (some (place + 36)) index (weight * (36 - t)) rest

/-- Splits a label at its last hyphen, unless there is nothing in front of it. -/
def splitLast (label : List Char) : List Char × List Char :=
  let behind := (label.reverse.takeWhile (· != '-')).reverse
  match label.take (label.length - behind.length - 1) with
  | [] => ([], label)
  | front => (front, behind)

/-- Decodes a label without its `xn--`; none if it is not the code of any. -/
def decode? (label : List Char) : Option (List Nat) :=
  let (front, behind) := splitLast label
  if front.all fun c => c.toNat < 0x80 then
    (digits ⟨front.map Char.toNat, 128, 0, 72⟩ none 0 1 behind).map State.output
  else none

end Dql.Uri.Punycode
