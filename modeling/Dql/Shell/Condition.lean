import Dql.Shell.Numeral
import Dql.Shell.State

/-!
# Conditions

The arguments of `test` are an expression of tests on texts, numbers and files, put together
by operators. What an argument means depends on its neighbours: an operator without an operand
is a text, and a text is true unless it is empty. Three arguments with an operator in the
middle are always one comparison.
-/

namespace Dql.Shell.Condition

/-- What an argument is where it stands. -/
inductive Token where
  | nothing
  | operand
  | unary (letter : Char)
  | binary (operator : String)
  | not
  | and
  | or
  | openParen
  | closeParen
deriving DecidableEq, Repr

/-- The operators between two operands. -/
def binaryOperators : List String :=
  ["=", "!=", "<", ">", "-eq", "-ne", "-ge", "-gt", "-le", "-lt", "-nt", "-ot", "-ef"]

/-- The letters of the tests on one operand. -/
def unaryLetters : List Char := "rwxefdcbpugkstznhLSOG".toList

/-- The operator that an argument may be. -/
def operator? (a : Bytes) : Option Token :=
  match a with
  | ['!'] => some .not
  | ['('] => some .openParen
  | [')'] => some .closeParen
  | ['-', 'a'] => some .and
  | ['-', 'o'] => some .or
  | _ =>
    match binaryOperators.find? fun o => o.toList == a with
    | some o => some (.binary o)
    | none =>
      match a with
      | ['-', c] => if unaryLetters.contains c then some (.unary c) else none
      | _ => none

/-- Whether an argument is an operator between two operands. -/
def isBinary (a : Bytes) : Bool :=
  match operator? a with
  | some (.binary _) => true
  | _ => false

/-- What the first of some arguments is. -/
def token : List Bytes → Token
  | [] => .nothing
  | a :: rest =>
    match operator? a, rest with
    | some (.unary _), [] => .operand
    | some (.unary c), [_] => .unary c
    | some (.unary c), b :: _ => if isBinary b then .operand else .unary c
    | some .openParen, [] => .operand
    | some t, _ => t
    | none, _ => .operand

/-- Complains, of an argument if there is one. -/
def fail {α : Type} (about : Bytes) (message : String) : Exec α :=
  Exec.fail (if about.isEmpty then say message else about ++ say (": " ++ message))

/-- What stands at a path, for tests on files. -/
def entryOf (path : Bytes) : Exec Entry := do
  let s ← Exec.shell
  match (← Exec.world).files.entry s.place path with
  | .ok entry => return entry
  | .error _ => return .missing

/-- Whether a descriptor that a device stands for leads to a pipe. -/
def isPipe (n : Nat) : Exec Bool := do
  let w ← Exec.world
  match ((← Exec.shell).opening? n).bind fun o => w.openings[o]? with
  | some ⟨.pipe _, _, _, _, _⟩ => return true
  | _ => return false

/-- Tests what stands at a path. -/
def testFile (letter : Char) (path : Bytes) : Exec Bool := do
  let entry ← entryOf path
  match entry with
  | .missing => return false
  | .folder => return "rwxedOGs".toList.contains letter
  | .file content => return "rwefOG".toList.contains letter || (letter == 's' && !content.isEmpty)
  | .program => return "rwxefsOG".toList.contains letter
  | .device (.descriptor n) =>
    match (← Exec.shell).opening? n with
    | none => return false
    | some _ =>
      let piped ← isPipe n
      return "rweOG".toList.contains letter || (letter == 'p' && piped) ||
        (letter == 'c' && !piped)
  | .device _ => return "rwecOG".toList.contains letter

/-- Reads a number. -/
def number (a : Bytes) : Exec Int := do
  match Numeral.whole? true a with
  | some n => return n
  | none => Exec.fail (say "Illegal number: " ++ a)

/-- Tests one operand. -/
def testUnary (letter : Char) (a : Bytes) : Exec Bool := do
  if letter = 'z' then return a.isEmpty
  else if letter = 'n' then return !a.isEmpty
  else if letter = 't' then
    let _ ← number a
    return false
  else testFile letter a

/-- Tests two operands. -/
def testBinary (operator : String) (a b : Bytes) : Exec Bool := do
  let compare : (Int → Int → Bool) → Exec Bool := fun f => return f (← number a) (← number b)
  match operator with
  | "=" => return a == b
  | "!=" => return a != b
  | "<" => return a < b
  | ">" => return b < a
  | "-eq" => compare (· == ·)
  | "-ne" => compare (· != ·)
  | "-ge" => compare fun x y => y ≤ x
  | "-gt" => compare fun x y => y < x
  | "-le" => compare fun x y => x ≤ y
  | "-lt" => compare fun x y => x < y
  | "-ef" =>
    let s ← Exec.shell
    let files := (← Exec.world).files
    match files.place s.place a, files.place s.place b with
    | .ok p, .ok q =>
      return p == q && (match files.entryAt p with
        | .missing => false
        | _ => true)
    | _, _ => return false
  | _ => return false

/-- The outcome of a part of an expression, and the arguments from its last one on. -/
abbrev Outcome := Bool × List Bytes

mutual

/-- Tests alternatives. -/
def alternatives : Nat → List Bytes → Token → Exec Outcome
  | 0, args, _ => return (false, args)
  | n + 1, args, t => do
    let (a, args) ← conjunction n args t
    if token args.tail = .or then
      let rest := args.drop 2
      let (b, args) ← alternatives n rest (token rest)
      return (a || b, args)
    else return (a, args)

/-- Tests what has to hold together. -/
def conjunction : Nat → List Bytes → Token → Exec Outcome
  | 0, args, _ => return (false, args)
  | n + 1, args, t => do
    let (a, args) ← negation n args t
    if token args.tail = .and then
      let rest := args.drop 2
      let (b, args) ← conjunction n rest (token rest)
      return (a && b, args)
    else return (a, args)

/-- Tests what may be negated. -/
def negation : Nat → List Bytes → Token → Exec Outcome
  | 0, args, _ => return (false, args)
  | n + 1, args, t => do
    if t = .not then
      let inner := token args.tail
      let (a, args) ← negation n (if inner = .nothing then args else args.tail) inner
      return (!a, args)
    else primary n args t

/-- Tests operands, or what stands in parentheses. -/
def primary : Nat → List Bytes → Token → Exec Outcome
  | 0, args, _ => return (false, args)
  | n + 1, args, t => do
    match t with
    | .nothing => return (false, args)
    | .openParen =>
      let args := args.tail
      if token args = .closeParen then return (false, args)
      let (a, args) ← alternatives n args (token args)
      let args := args.tail
      if token args ≠ .closeParen then fail [] "closing paren expected"
      return (a, args)
    | .unary c =>
      match args.tail with
      | [] => fail ['-', c] "argument expected"
      | a :: rest => return (← testUnary c a, a :: rest)
    | _ =>
      match token args.tail, args with
      | .binary o, a :: _ :: b :: rest => return (← testBinary o a b, b :: rest)
      | .binary o, _ => fail (say o) "argument expected"
      | _, a :: _ => return (!a.isEmpty, args)
      | _, [] => return (false, args)

end

/-- Tests an expression. -/
def whole (args : List Bytes) (t : Token) : Exec Bool := do
  let (a, args) ← alternatives (8 * args.length + 8) args t
  match args with
  | last :: _ :: _ => fail last "unexpected operator"
  | _ => return a

/-- Tests arguments. -/
def evaluate (wanted : Bool) : List Bytes → Exec Bool
  | [] => return !wanted
  | args@(first :: rest) => do
    let enclosed := first == ['('] && args.getLast? == some [')']
    let inner := rest.dropLast
    match args with
    | [_, o, _] =>
      if isBinary o then return (← whole args .operand) == wanted
      else if enclosed then return (← whole inner (token inner)) == wanted
      else if first = ['!'] then evaluate (!wanted) rest
      else return (← whole args (token args)) == wanted
    | [_, _, _, _] =>
      if enclosed then return (← whole inner (token inner)) == wanted
      else if first = ['!'] then evaluate (!wanted) rest
      else return (← whole args (token args)) == wanted
    | _ => return (← whole args (token args)) == wanted

end Dql.Shell.Condition
