import Dql.Shell.Numeral

/-!
# Printing in scripts

What `echo` and `printf` make of their arguments. Both know escapes behind a backslash,
letters for control characters and octal numbers for bytes; a backslash that means nothing
stands for itself. A directive of a format takes an argument and may give flags, a width and
a precision. A format is gone through again as long as arguments are left.
-/

namespace Dql.Shell

namespace Escape

/-- Whether a character is an octal digit. -/
def isOctal (c : Char) : Bool := '0' ≤ c && c ≤ '7'

/-- Reads an octal number of so many digits at most, behind the value of its beginning. -/
def octal : Nat → Nat → Bytes → Nat × Bytes
  | n + 1, value, c :: rest =>
    if isOctal c then octal n (value * 8 + digitValue c) rest else (value, c :: rest)
  | _, value, rest => (value, rest)

theorem length_octal_le : ∀ (n value : Nat) (cs : Bytes),
    (octal n value cs).2.length ≤ cs.length
  | 0, _, _ => by simp [octal]
  | _ + 1, _, [] => by simp [octal]
  | n + 1, value, c :: rest => by
    rw [octal]
    split
    · exact Nat.le_succ_of_le (length_octal_le n _ rest)
    · exact Nat.le_refl _

/-- The byte that a letter behind a backslash stands for. -/
def letter? (c : Char) : Option Char :=
  match c with
  | 'a' => some '\x07'
  | 'b' => some '\x08'
  | 't' => some '\x09'
  | 'n' => some '\x0a'
  | 'v' => some '\x0b'
  | 'f' => some '\x0c'
  | 'r' => some '\x0d'
  | 'e' => some '\x1b'
  | '\\' => some '\\'
  | _ => none

/-- The byte of an escape, read behind its backslash, and what follows. -/
def read : Bytes → Char × Bytes
  | [] => ('\\', [])
  | c :: rest =>
    match letter? c with
    | some b => (b, rest)
    | none =>
      if isOctal c then
        let (value, rest) := octal 3 0 (c :: rest)
        (Char.ofNat (value % 256), rest)
      else ('\\', c :: rest)

theorem length_read_le (cs : Bytes) : (read cs).2.length ≤ cs.length := by
  fun_cases read cs
  · simp
  · simp
  · rename_i c rest _ _ value rest' h
    have := length_octal_le 3 0 (c :: rest)
    rw [h] at this
    simpa using this
  · simp

/-- The byte of an escape as in an argument, where an octal number may have a zero before
its three digits. -/
def readLong : Bytes → Char × Bytes
  | '0' :: d :: rest => if isOctal d then read (d :: rest) else read ('0' :: d :: rest)
  | cs => read cs

theorem length_readLong_le (cs : Bytes) : (readLong cs).2.length ≤ cs.length := by
  fun_cases readLong cs
  · exact Nat.le_succ_of_le (length_read_le _)
  · exact length_read_le _
  · exact length_read_le _

/-- The bytes of an argument with escapes, and whether it asks to stop there. -/
def text : Bytes → Bytes × Bool
  | [] => ([], false)
  | c :: rest =>
    if c = '\\' then
      if rest.head? = some 'c' then ([], true)
      else
        let (bytes, stop) := text (readLong rest).2
        ((readLong rest).1 :: bytes, stop)
    else
      let (bytes, stop) := text rest
      (c :: bytes, stop)
termination_by cs => cs.length
decreasing_by
  · have := length_readLong_le rest
    simp only [List.length_cons]
    omega
  · simp

end Escape

/-- What `echo` prints: its arguments with blanks between them and, unless they ask not to,
a line break at their end. -/
def echo (arguments : List Bytes) : Bytes :=
  let (shown, ending) := match arguments with
    | ['-', 'n'] :: rest => (rest, [])
    | all => (all, ['\n'])
  let (bytes, stop) := Escape.text (Bytes.join [' '] shown)
  if stop then bytes else bytes ++ ending

namespace Format

/-! ## Directives -/

/-- A width or a precision. -/
inductive Size where
  | none
  | given (n : Nat)
  /-- An argument says it. -/
  | argument
deriving DecidableEq, Repr

/-- A directive: its flags, its sizes and its letter, as written behind the percent sign. -/
structure Directive where
  flags : Bytes
  width : Size
  precision : Size
  letter : Char
  text : Bytes
deriving DecidableEq, Repr

/-- A part of a format. -/
inductive Part where
  | char (c : Char)
  | directive (d : Directive)
  /-- A directive breaks off. -/
  | broken
deriving DecidableEq, Repr

/-- Reads a size. -/
def size (cs : Bytes) : Size × Bytes :=
  match cs with
  | '*' :: rest => (.argument, rest)
  | _ =>
    match cs.takeWhile Char.isDigit with
    | [] => (.none, cs)
    | digits => (.given (naturalOf digits), cs.dropWhile Char.isDigit)

/-- Reads a precision with its point; without digits it is zero. -/
def precision (cs : Bytes) : Size × Bytes :=
  match cs with
  | '.' :: rest =>
    match size rest with
    | (.none, rest) => (.given 0, rest)
    | found => found
  | _ => (.none, cs)

/-- Reads a directive behind its percent sign; none if it breaks off. -/
def directive? (cs : Bytes) : Option (Directive × Nat) :=
  let isFlag : Char → Bool := fun c => "#-+ 0".toList.contains c
  let (width, rest) := size (cs.dropWhile isFlag)
  let (precision, rest) := precision rest
  match rest with
  | [] => none
  | c :: rest =>
    let count := cs.length - rest.length
    some (⟨cs.takeWhile isFlag, width, precision, c, '%' :: cs.take count⟩, count)

/-- The parts of a format. -/
def parts : Bytes → List Part
  | [] => []
  | c :: rest =>
    if c = '\\' then .char (Escape.read rest).1 :: parts (Escape.read rest).2
    else if c = '%' then
      if rest.head? = some '%' then .char '%' :: parts (rest.drop 1)
      else
        match directive? rest with
        | none => [.broken]
        | some (d, count) => .directive d :: parts (rest.drop count)
    else .char c :: parts rest
termination_by cs => cs.length
decreasing_by
  · have := Escape.length_read_le rest
    simp only [List.length_cons]
    omega
  · simp only [List.length_drop, List.length_cons]
    omega
  · simp only [List.length_drop, List.length_cons]
    omega
  · simp

/-! ## Fields -/

/-- How a field is laid out. -/
structure Layout where
  flags : Bytes := []
  width : Nat := 0
  left : Bool := false
  precision : Option Nat := none

namespace Layout

/-- Whether a flag is given. -/
def has (l : Layout) (flag : Char) : Bool := l.flags.contains flag

/-- Fills a field up with blanks. -/
def pad (l : Layout) (field : Bytes) : Bytes :=
  let fill := List.replicate (l.width - field.length) ' '
  if l.left then field ++ fill else fill ++ field

/-- Fills a number up, with zeros behind its sign if it may. -/
def padNumber (l : Layout) (zeros : Bool) (sign digits : Bytes) : Bytes :=
  if zeros && l.has '0' && !l.left then
    sign ++ List.replicate (l.width - sign.length - digits.length) '0' ++ digits
  else l.pad (sign ++ digits)

/-- The sign of a number. -/
def sign (l : Layout) (negative : Bool) : Bytes :=
  if negative then ['-'] else if l.has '+' then ['+'] else if l.has ' ' then [' '] else []

/-- The digits of a natural, as many as the precision asks for. -/
def digits (l : Layout) (base n : Nat) : Bytes :=
  let shown := if n = 0 ∧ l.precision = some 0 then [] else Nat.toDigits base n
  List.replicate (l.precision.getD 0 - shown.length) '0' ++ shown

/-- A text. -/
def text (l : Layout) (s : Bytes) : Bytes :=
  l.pad (match l.precision with
    | some n => s.take n
    | none => s)

/-- An integer with its sign. -/
def integer (l : Layout) (n : Int) : Bytes :=
  l.padNumber l.precision.isNone (l.sign (n < 0)) (l.digits 10 n.natAbs)

/-- A natural in a base, by the letter of its directive. -/
def natural (l : Layout) (letter : Char) (n : Nat) : Bytes :=
  let alternate := l.has '#'
  if letter = 'u' then l.padNumber l.precision.isNone [] (l.digits 10 n)
  else if letter = 'o' then
    let digits := l.digits 8 n
    l.padNumber l.precision.isNone []
      (if alternate && digits.head? != some '0' then '0' :: digits else digits)
  else
    let lower := l.digits 16 n
    let digits := if letter = 'X' then lower.map Char.toUpper else lower
    l.padNumber l.precision.isNone
      (if alternate && n != 0 then ['0', letter] else []) digits

/-- Digits with a point in front of so many of them. -/
def point (l : Layout) (n places : Nat) : Bytes :=
  let digits := Nat.toDigits 10 n
  let digits := List.replicate (places + 1 - digits.length) '0' ++ digits
  let front := digits.take (digits.length - places)
  if places = 0 then (if l.has '#' then front ++ ['.'] else front)
  else front ++ '.' :: digits.drop (digits.length - places)

/-- Digits of a quotient with so many places, positionally. -/
def positional (l : Layout) (num den places : Nat) : Bytes :=
  l.point (Double.roundHalfEven (num * Nat.pow 10 places) den) places

/-- The power of ten of the first digit of a quotient that is rounded to so many places
behind that digit, and the digits. -/
def scaled (num den places : Nat) : Int × Nat :=
  if num = 0 then (0, 0)
  else
    let power := Double.decimalPower num den - 1
    let shift := (places : Int) - power
    let digits := if 0 ≤ shift then Double.roundHalfEven (num * Nat.pow 10 shift.toNat) den
      else Double.roundHalfEven num (den * Nat.pow 10 (-shift).toNat)
    if Nat.pow 10 (places + 1) ≤ digits then (power + 1, digits / 10) else (power, digits)

/-- The power of ten behind a letter, of two digits at least. -/
def exponent (letter : Char) (power : Int) : Bytes :=
  let digits := Nat.toDigits 10 power.natAbs
  letter :: (if power < 0 then '-' else '+') :: (List.replicate (2 - digits.length) '0' ++ digits)

/-- Digits of a quotient with so many places, in scientific form. -/
def scientific (l : Layout) (letter : Char) (num den places : Nat) : Bytes :=
  let (power, digits) := scaled num den places
  l.point digits places ++ exponent letter power

/-- Digits with a point, without zeros at their end. -/
def trimZeros (l : Layout) (digits : Bytes) : Bytes :=
  if l.has '#' || !digits.contains '.' then digits
  else
    let trimmed := (digits.reverse.dropWhile (· == '0')).reverse
    if trimmed.getLast? = some '.' then trimmed.dropLast else trimmed

/-- Digits of a quotient in the shorter of both forms. -/
def shorter (l : Layout) (letter : Char) (num den : Nat) : Bytes :=
  let significant := max 1 (l.precision.getD 6)
  let (power, digits) := scaled num den (significant - 1)
  if -4 ≤ power ∧ power < significant then
    l.trimZeros (l.positional num den ((significant : Int) - 1 - power).toNat)
  else
    l.trimZeros (l.point digits (significant - 1)) ++ exponent letter power

/-- Digits of a quotient in base sixteen, with a power of two. -/
def binary (l : Layout) (upper : Bool) (x : Double) : Bytes :=
  let adapt : Bytes → Bytes := fun b => if upper then b.map Char.toUpper else b
  let whole := if x.significand < Double.leastNormal then 0 else 1
  let behind := Nat.toDigits 16 (x.significand % Double.leastNormal)
  let behind := List.replicate (13 - behind.length) '0' ++ behind
  let behind := (behind.reverse.dropWhile (· == '0')).reverse
  let power := if x.isZero then 0 else x.exponent + 52
  adapt (Bytes.ofNat whole ++ (if behind.isEmpty && !l.has '#' then [] else '.' :: behind) ++
    'p' :: (if power < 0 then '-' else '+') :: Bytes.ofNat power.natAbs)

/-- A number, by the letter of its directive. -/
def real (l : Layout) (letter : Char) (x : Real) : Bytes :=
  let adapt : Bytes → Bytes := fun b => if letter.isUpper then b.map Char.toUpper else b
  match x with
  | .infinite negative => l.padNumber false (l.sign negative) (adapt "inf".toList)
  | .undefined negative => l.padNumber false (l.sign negative) (adapt "nan".toList)
  | .finite x =>
    let (num, den) := x.toRatio
    let lower := letter.toLower
    let e := if letter.isUpper then 'E' else 'e'
    let places := l.precision.getD 6
    if lower = 'f' then l.padNumber true (l.sign x.negative) (l.positional num den places)
    else if lower = 'e' then l.padNumber true (l.sign x.negative) (l.scientific e num den places)
    else if lower = 'g' then l.padNumber true (l.sign x.negative) (l.shorter e num den)
    else
      l.padNumber true (l.sign x.negative ++ ['0', if letter.isUpper then 'X' else 'x'])
        (l.binary letter.isUpper x)

end Layout

/-! ## Going through a format -/

/-- What has been printed. -/
structure Printed where
  /-- The bytes, in reverse. -/
  reversed : Bytes := []
  /-- The arguments that are left. -/
  rest : List Bytes
  /-- What is complained of, in reverse. -/
  complaints : List Bytes := []
  /-- Whether printing goes on. -/
  goesOn : Bool := true
  /-- Whether printing has failed and not just found a number that is none. -/
  failed : Bool := false

namespace Printed

/-- Adds bytes. -/
def add (p : Printed) (bytes : Bytes) : Printed :=
  { p with reversed := bytes.reverse ++ p.reversed }

/-- Complains. -/
def complain (p : Printed) (message : Bytes) : Printed :=
  { p with complaints := message :: p.complaints }

/-- Complains and stops. -/
def fail (p : Printed) (message : Bytes) : Printed :=
  { p.complain message with goesOn := false, failed := true }

/-- Takes an argument. -/
def take (p : Printed) : Option Bytes × Printed :=
  match p.rest with
  | [] => (none, p)
  | a :: rest => (some a, { p with rest := rest })

/-- Complains if an argument is not a number up to its end, or one that is too large. -/
def check (p : Printed) (argument rest : Bytes) (tooLarge : Bool) : Printed :=
  if rest.isEmpty then
    if tooLarge then p.complain (argument ++ say ": Numerical result out of range") else p
  else if rest.length = argument.length then
    p.complain (argument ++ say ": expected numeric value")
  else p.complain (argument ++ say ": not completely converted")

/-- Takes an argument as an integer within bounds. -/
def takeInteger (p : Printed) (low high : Int) : Int × Printed :=
  match p.take with
  | (none, p) => (0, p)
  | (some ('"' :: rest), p) => ((rest.headD '\x00').toNat, p)
  | (some ('\'' :: rest), p) => ((rest.headD '\x00').toNat, p)
  | (some a, p) =>
    let (n, rest) := Numeral.integer false a
    (max low (min high n), p.check a rest (n < low || high < n))

/-- Takes an argument as a natural of 64 bits; a negative one wraps. -/
def takeNatural (p : Printed) : Nat × Printed :=
  let bound : Int := UInt64.size
  let (n, p) := p.takeInteger (1 - bound) (bound - 1)
  ((n % bound).toNat, p)

/-- Takes an argument as a number. -/
def takeReal (p : Printed) : Real × Printed :=
  let ofByte : Bytes → Real := fun rest => Real.ofDecimal false (rest.headD '\x00').toNat 0
  match p.take with
  | (none, p) => (.finite (.zero false), p)
  | (some ('"' :: rest), p) => (ofByte rest, p)
  | (some ('\'' :: rest), p) => (ofByte rest, p)
  | (some a, p) =>
    let (x, rest) := Real.read a
    let tooLarge := match x with
      | .infinite _ => a.any Char.isDigit
      | _ => false
    (x, p.check a rest tooLarge)

/-- Takes a size. -/
def takeSize (p : Printed) : Size → Option Int × Printed
  | .none => (none, p)
  | .given n => (some n, p)
  | .argument =>
    let (n, p) := p.takeInteger Int32.minValue.toInt Int32.maxValue.toInt
    (some n, p)

/-- Prints a directive. -/
def directive (p : Printed) (d : Directive) : Printed :=
  let (width, p) := p.takeSize d.width
  let (precision, p) := p.takeSize d.precision
  let l : Layout := {
    flags := d.flags
    width := (width.getD 0).natAbs
    left := d.flags.contains '-' || width.any (· < 0)
    precision := precision.bind fun n => if n < 0 then none else some n.toNat }
  let c := d.letter
  if c = 's' then
    let (a, p) := p.take
    p.add (l.text (a.getD []))
  else if c = 'b' then
    let (a, p) := p.take
    let (bytes, stop) := Escape.text (a.getD [])
    let p := p.add (l.text bytes)
    if stop then { p with goesOn := false } else p
  else if c = 'c' then
    let (a, p) := p.take
    p.add (l.pad [(a.getD []).headD '\x00'])
  else if c = 'd' ∨ c = 'i' then
    let (n, p) := p.takeInteger Numeral.least Numeral.greatest
    p.add (l.integer n)
  else if "ouxX".toList.contains c then
    let (n, p) := p.takeNatural
    p.add (l.natural c n)
  else if "aAeEfFgG".toList.contains c then
    let (x, p) := p.takeReal
    p.add (l.real c x)
  else p.fail (d.text ++ say ": invalid directive")

/-- Prints a part of a format, unless printing has stopped. -/
def part (p : Printed) (part : Part) : Printed :=
  if p.goesOn then
    match part with
    | .char c => p.add [c]
    | .directive d => p.directive d
    | .broken => p.fail (say "missing format character")
  else p

/-- Goes through a format, and so many more times at most, as long as that uses up
arguments. -/
def again (parts : List Part) : Nat → Printed → Printed
  | 0, p => p
  | n + 1, p =>
    let after := parts.foldl Printed.part p
    if after.goesOn && !after.rest.isEmpty && after.rest.length < p.rest.length then
      again parts n after
    else after

end Printed

/-- What `printf` prints by a format. -/
def print (format : Bytes) (arguments : List Bytes) : Printed :=
  Printed.again (parts format) (arguments.length + 1) { rest := arguments }

end Format

end Dql.Shell
