import Dql.Shell.Quotation
import Dql.Shell.State

/-!
# Builtins

A builtin takes arguments and answers a status and what it writes, which is written when it
has ended. A special builtin ends the shell when something is wrong with it; one that assigns
takes arguments such as `name=value` as assignments.
-/

namespace Dql.Shell

/-- How a builtin has ended. -/
structure Outcome where
  status : Nat := 0
  output : Bytes := []
deriving DecidableEq, Repr

/-- A command that the shell carries out itself. -/
structure Builtin where
  name : String
  isSpecial : Bool := false
  assigns : Bool := false
deriving DecidableEq, Repr

namespace Builtin

/-- The builtins. -/
def all : List Builtin := [
  ⟨".", true, false⟩, ⟨":", true, false⟩, ⟨"[", false, false⟩, ⟨"alias", false, true⟩,
  ⟨"bg", false, false⟩, ⟨"break", true, false⟩, ⟨"cd", false, false⟩, ⟨"chdir", false, false⟩,
  ⟨"command", false, false⟩, ⟨"continue", true, false⟩, ⟨"echo", false, false⟩,
  ⟨"eval", true, false⟩, ⟨"exec", true, false⟩, ⟨"exit", true, false⟩, ⟨"export", true, true⟩,
  ⟨"false", false, false⟩, ⟨"fg", false, false⟩, ⟨"getopts", false, false⟩,
  ⟨"hash", false, false⟩, ⟨"jobs", false, false⟩, ⟨"kill", false, false⟩, ⟨"local", true, true⟩,
  ⟨"printf", false, false⟩, ⟨"pwd", false, false⟩, ⟨"read", false, false⟩,
  ⟨"readonly", true, true⟩, ⟨"return", true, false⟩, ⟨"set", true, false⟩,
  ⟨"shift", true, false⟩, ⟨"test", false, false⟩, ⟨"times", true, false⟩,
  ⟨"trap", true, false⟩, ⟨"true", false, false⟩, ⟨"type", false, false⟩,
  ⟨"ulimit", false, false⟩, ⟨"umask", false, false⟩, ⟨"unalias", false, false⟩,
  ⟨"unset", true, false⟩, ⟨"wait", false, false⟩]

/-- The builtin of a name. -/
def find? (name : Bytes) : Option Builtin := all.find? fun b => b.name.toList == name

/-! ## Options -/

/-- What becomes of the letter of an option. -/
inductive Letter where
  | unknown
  | plain
  | withArgument
deriving DecidableEq, Repr

/-- Looks a letter up among those that are known, where a colon follows one that takes an
argument. -/
def letter (c : Char) : List Char → Letter
  | [] => .unknown
  | d :: ':' :: rest => if c = d then .withArgument else letter c rest
  | d :: rest => if c = d then .plain else letter c rest

/-- Reads the letters of an argument: the options, with their arguments, and what is left of the
arguments behind it. -/
def lettersOf (known : String) (rest : List Bytes) :
    Bytes → Exec (List (Char × Bytes) × List Bytes)
  | [] => return ([], rest)
  | c :: more => do
    match letter c known.toList with
    | .unknown => Exec.fail (say "Illegal option -" ++ [c])
    | .plain => do
      let (options, rest) ← lettersOf known rest more
      return ((c, []) :: options, rest)
    | .withArgument =>
      match more, rest with
      | [], [] => Exec.fail (say "No arg for -" ++ c :: say " option")
      | [], argument :: rest => return ([(c, argument)], rest)
      | more, rest => return ([(c, more)], rest)

/-- Reads so many arguments with options at most. -/
def optionsWithin (known : String) : Nat → List Bytes → Exec (List (Char × Bytes) × List Bytes)
  | 0, args => return ([], args)
  | n + 1, args =>
    match args with
    | ['-', '-'] :: rest => return ([], rest)
    | ('-' :: c :: more) :: rest => do
      let (first, rest) ← lettersOf known rest (c :: more)
      let (others, rest) ← optionsWithin known n rest
      return (first ++ others, rest)
    | args => return ([], args)

/-- Reads the options in front of arguments. -/
def options (known : String) (args : List Bytes) : Exec (List (Char × Bytes) × List Bytes) :=
  optionsWithin known args.length args

/-- A line of output. -/
def line (bytes : Bytes) : Bytes := bytes ++ ['\n']

/-- Writes a complaint without a line in front of it. -/
def note (bytes : Bytes) : Exec Unit := do
  let _ ← Exec.writeTo 2 (line bytes)

/-- The place of a name in a table of so many rows, in which names are listed by rows. -/
def row (rows : Nat) (name : Bytes) : Nat :=
  name.foldl (fun n c => n + c.toNat) ((name.head?.map fun c => c.toNat * 16).getD 0) % rows

/-- Entries listed by rows, and as they came within each. -/
def byRows {α : Type} (rows : Nat) (entries : List (Bytes × α)) : List (Bytes × α) :=
  (List.range rows).flatMap fun n => entries.filter fun e => row rows e.1 == n

end Builtin

end Dql.Shell
