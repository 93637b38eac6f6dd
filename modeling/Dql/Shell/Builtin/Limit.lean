import Dql.Shell.Builtin.Basic

/-!
# Builtins on limits and times

`umask` says which permissions new files do not get, in octal digits or as what is left for the
user, the group and others. `ulimit` says how much the shell may use, which is as much as
there is, and `times` how long it has worked, which is no time at all.
-/

namespace Dql.Shell.Builtin

/-- Three permissions as letters. -/
def permissionLetters (bits : Nat) : Bytes :=
  (if bits / 4 % 2 = 1 then ['r'] else []) ++ (if bits / 2 % 2 = 1 then ['w'] else []) ++
    (if bits % 2 = 1 then ['x'] else [])

/-- The permissions that a mask leaves, in words. -/
def maskWords (mask : Nat) : Bytes :=
  let left := fun (factor : Nat) => permissionLetters (7 - mask / factor % 8)
  say "u=" ++ left 64 ++ say ",g=" ++ left 8 ++ say ",o=" ++ left 1

/-- A number as so many octal digits. -/
def octalDigits (n count : Nat) : Bytes :=
  let digits := Nat.toDigits 8 n
  List.replicate (count - digits.length) '0' ++ digits

/-- The factors of those that letters name. -/
def whoFactors (letters : Bytes) : List Nat :=
  if letters.isEmpty || letters.contains 'a' then [64, 8, 1]
  else
    (if letters.contains 'u' then [64] else []) ++ (if letters.contains 'g' then [8] else []) ++
      (if letters.contains 'o' then [1] else [])

/-- The permissions that a letter names, by those that there are. -/
def permissionBits (mode : Nat) (c : Char) : Option Nat :=
  match c with
  | 'r' => some 4
  | 'w' => some 2
  | 'x' => some 1
  | 'X' => some (if mode / 64 % 2 + mode / 8 % 2 + mode % 2 = 0 then 0 else 1)
  | 's' => some 0
  | 't' => some 0
  | 'u' => some (mode / 64 % 8)
  | 'g' => some (mode / 8 % 8)
  | 'o' => some (mode % 8)
  | _ => none

/-- Changes permissions of some by an operator. -/
def changeMode (mode : Nat) (factors : List Nat) (operator : Char) (bits : Nat) : Nat :=
  factors.foldl (fun mode factor =>
    let old := mode / factor % 8
    let new := if operator = '+' then old ||| bits
      else if operator = '-' then old - (old &&& bits)
      else bits
    mode - old * factor + new * factor) mode

/-- Reads one clause of permissions behind those that it is for. -/
def modeClause (factors : List Nat) : Nat → Nat → Bytes → Option Nat
  | 0, _, _ => none
  | _ + 1, mode, [] => some mode
  | n + 1, mode, operator :: rest =>
    if operator = '+' ∨ operator = '-' ∨ operator = '=' then
      let letters := rest.takeWhile fun c => (permissionBits mode c).isSome
      let bits := letters.foldl (fun b c => b ||| (permissionBits mode c).getD 0) 0
      modeClause factors n (changeMode mode factors operator bits) (rest.drop letters.length)
    else none

/-- Reads permissions in words, as changes of others. -/
def readMode (mode : Nat) (words : Bytes) : Option Nat :=
  (Bytes.splitAt ',' words).foldl (fun mode clause =>
    mode.bind fun mode =>
      let who := clause.takeWhile fun c => "ugoa".toList.contains c
      let rest := clause.drop who.length
      if who.isEmpty && rest.isEmpty then none
      else modeClause (whoFactors who) (rest.length + 1) mode rest) (some mode)

/-- Says which permissions new files do not get, or changes that. -/
def umask (args : List Bytes) : Exec Outcome := do
  let (options, args) ← options "S" args
  let mask := (← Exec.shell).mask
  match args with
  | [] =>
    return { output := line (if options.isEmpty then octalDigits mask 4 else maskWords mask) }
  | words :: _ =>
    let mask ← if words.head?.any Char.isDigit then
        if words.all fun c => '0' ≤ c && c ≤ '7' then
          pure (words.foldl (fun n c => n * 8 + digitValue c) 0 % 512)
        else Exec.fail (say "Illegal number: " ++ words)
      else
        match readMode (511 - mask) words with
        | some mode => pure (511 - mode)
        | none => Exec.fail (say "Illegal mode: " ++ words)
    Exec.modifyShell fun s => { s with mask := mask }
    return {}

/-- Says how much the shell may use. -/
def ulimit (args : List Bytes) : Exec Outcome := do
  let (_, args) ← options "HSatfdscmlpnvwr" args
  match args with
  | [] => return { output := line (say "unlimited") }
  | [limit] =>
    if (number? limit).isNone && limit != say "unlimited" then Exec.fail (say "bad number")
    return {}
  | _ => Exec.fail (say "too many arguments")

/-- Says how long the shell has worked. -/
def times (_ : List Bytes) : Exec Outcome := do
  let spent := line (say "0m0.000000s 0m0.000000s")
  return { output := spent ++ spent }

end Dql.Shell.Builtin
