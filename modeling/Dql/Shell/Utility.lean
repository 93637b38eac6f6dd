import Dql.Shell.Builtin.Folder
import Dql.Shell.Condition
import Dql.Shell.Format
import Dql.Shell.Utility.Cat

/-!
# Programs

The programs that scripts start beside the shell itself: each one takes its name and its
arguments and answers its status. `sleep` needs to know how time goes by, and so does not run
here; its arguments are read here as microseconds.
-/

namespace Dql.Shell.Utility

/-! ## Echo -/

/-- Whether an argument is an option of `echo`. -/
def isEchoOption : Bytes → Bool
  | '-' :: c :: more => (c :: more).all fun c => c == 'n' || c == 'e' || c == 'E'
  | _ => false

/-- A hexadecimal number of so many digits at most. -/
def hexadecimal : Nat → Nat → Bytes → Nat × Bytes
  | n + 1, value, c :: rest =>
    match Numeral.digit? 16 c with
    | some d => hexadecimal n (value * 16 + d) rest
    | none => (value, c :: rest)
  | _, value, rest => (value, rest)

/-- Text with escapes replaced, and whether one of them asks to stop there; so many characters
at most. -/
def unescape : Nat → Bytes → Bytes × Bool
  | 0, _ => ([], false)
  | _ + 1, [] => ([], false)
  | n + 1, '\\' :: c :: rest =>
    let put : Bytes → Bytes → Bytes × Bool := fun front rest =>
      let (more, stop) := unescape n rest
      (front ++ more, stop)
    if c = 'c' then ([], true)
    else if c = 'x' ∧ (rest.head?.bind (Numeral.digit? 16)).isSome then
      let (value, rest) := hexadecimal 2 0 rest
      put [Char.ofNat value] rest
    else if Escape.isOctal c then
      let digits := if c = '0' then rest else c :: rest
      let (value, rest) := Escape.octal 3 0 digits
      put [Char.ofNat (value % 256)] rest
    else
      match Escape.letter? c with
      | some b => put [b] rest
      | none => put ['\\', c] rest
  | n + 1, c :: rest =>
    let (more, stop) := unescape n rest
    (c :: more, stop)

/-- Shows arguments. -/
def echo (program : Bytes) (args : List Bytes) : Exec Nat := do
  let letters := (args.takeWhile isEchoOption).flatMap (·.drop 1)
  let text := Bytes.join [' '] (args.dropWhile isEchoOption)
  let ending := if letters.contains 'n' then [] else ['\n']
  let escapes := (letters.filter (· != 'n')).getLast? == some 'e'
  let (shown, stop) := if escapes then unescape (text.length + 1) text else (text, false)
  finish program (if stop then shown else shown ++ ending) 0

/-! ## Printf -/

/-- Prints by a format. -/
def printf (program : Bytes) (args : List Bytes) : Exec Nat := do
  match if args.head? = some ['-', '-'] then args.tail else args with
  | [] => refuse program (say "missing operand")
  | format :: rest =>
    let printed := Format.print format rest
    for message in printed.complaints.reverse do
      complain program message
    finish program printed.reversed.reverse
      (if printed.failed || !printed.complaints.isEmpty then 1 else 0)

/-! ## Sleep -/

/-- The seconds that the letter behind a number stands for. -/
def unit? : Bytes → Option Nat
  | [] => some 1
  | ['s'] => some 1
  | ['m'] => some 60
  | ['h'] => some 3600
  | ['d'] => some 86400
  | _ => none

/-- The microseconds that count as forever: an hour. -/
def longest : Nat := 3600 * 1000000

/-- The microseconds that an argument asks for. -/
def microseconds? (argument : Bytes) : Option Nat :=
  let (x, rest) := Real.read argument
  if rest.length = argument.length then none
  else
    match x, unit? rest with
    | .finite x, some unit =>
      let (num, den) := x.toRatio
      if x.negative && !x.isZero then none
      else some (min longest ((num * unit * 1000000 + den - 1) / den))
    | .infinite false, some _ => some longest
    | _, _ => none

/-- Reads the arguments of `sleep`. -/
def sleepTime (program : Bytes) (args : List Bytes) : Exec (Except Nat Nat) := do
  match args with
  | ('-' :: '-' :: c :: option) :: _ =>
    return .error (← refuse program (say "unrecognized option '--" ++ c :: option ++ ['\'']))
  | ('-' :: c :: _) :: _ =>
    if c ≠ '-' then
      return .error (← refuse program (say "invalid option -- '" ++ [c, '\'']))
  | _ => pure ()
  let args := if args.head? = some ['-', '-'] then args.tail else args
  if args.isEmpty then return .error (← refuse program (say "missing operand"))
  let bad := args.filter fun a => (microseconds? a).isNone
  match bad.reverse with
  | [] => return .ok ((args.filterMap microseconds?).foldl (· + ·) 0)
  | last :: others =>
    let message : Bytes → Bytes := fun a => say "invalid time interval '" ++ a ++ ['\'']
    others.reverse.forM fun a => complain program (message a)
    return .error (← refuse program (message last))

/-! ## Other programs -/

/-- Tests arguments, and answers the status. -/
def test (name : Bytes) (args : List Bytes) : Exec Nat := do
  let args ← if name = ['['] then
      if args.getLast? = some [']'] then pure args.dropLast
      else Exec.fail (say "missing ]")
    else pure args
  return if ← Condition.evaluate true args then 0 else 1

/-- Shows the current folder. -/
def pwd (program : Bytes) (args : List Bytes) : Exec Nat := do
  if !args.isEmpty then complain program (say "ignoring non-option arguments")
  finish program ((Path.ofPlace (← Exec.shell).place) ++ ['\n']) 0

end Dql.Shell.Utility
