import Dql.Shell.Builtin.Basic
import Dql.Shell.Source

/-!
# What commands are

The name of a command is that of a function, a builtin or a program, in this order. Programs
are looked for in the folders of the variable `PATH`, unless their name has a slash, and where
they were found is kept until that variable changes. `type` and `command -v` say what a name
stands for, `hash` lists the programs that were found, and `alias` and `unalias` act on
aliases.
-/

namespace Dql.Shell

/-- Why there is no program of a name. -/
inductive LookupError where
  | missing
  | denied
deriving DecidableEq, Repr

/-- The wording of the shell. -/
def LookupError.message : LookupError → String
  | missing => "not found"
  | denied => "Permission denied"

/-- What a command is. -/
inductive Found where
  | function (body : Node)
  | builtin (b : Builtin)
  /-- A program, by its path. -/
  | program (path : Bytes)
  | nothing (e : LookupError)

namespace Builtin

/-- The folders that programs are looked for in by themselves. -/
def defaultFolders : Bytes :=
  say "/usr/local/sbin:/usr/local/bin:/usr/sbin:/usr/bin:/sbin:/bin"

/-- Looks a program up in folders one after the other. -/
def searchFolders (f : Files) (here : Place) (name : Bytes) (e : LookupError) :
    List Bytes → Except LookupError Bytes
  | [] => .error e
  | folder :: rest =>
    let path := if folder.isEmpty then name else folder ++ '/' :: name
    match f.entry here path with
    | .ok .program => .ok path
    | .ok .missing => searchFolders f here name e rest
    | .ok _ => searchFolders f here name .denied rest
    | .error _ => searchFolders f here name e rest

/-- Looks a program up that has no slash in its name. -/
def searchProgram (s : Interpreter) (folders : Option Bytes) (name : Bytes) :
    Exec (Except LookupError Bytes) := do
  match if folders.isNone then s.found.lookup name else none with
  | some path => return .ok path
  | none =>
    match folders.orElse fun _ => s.value? (say "PATH") with
    | none => return .error .missing
    | some all =>
      return searchFolders (← Exec.world).files s.place name .missing (Bytes.splitAt ':' all)

/-- Keeps where a program was found in the shell's own folders. -/
def keep (folders : Option Bytes) (name path : Bytes) : Exec Unit :=
  Exec.modifyShell fun s =>
    if folders.isSome || (s.found.lookup name).isSome then s
    else { s with found := s.found ++ [(name, path)] }

/-- Says what a command is, and keeps where a program was found. -/
def lookUp (functions : Bool) (folders : Option Bytes) (name : Bytes) : Exec Found := do
  let s ← Exec.shell
  match if functions then s.functions.lookup name else none with
  | some body => return .function body
  | none =>
    match find? name with
    | some b => return .builtin b
    | none =>
      if name.contains '/' then return .program name
      match ← searchProgram s folders name with
      | .error e => return .nothing e
      | .ok path =>
        keep folders name path
        return .program path

/-- Keeps where the program of a command is found that is about to run in a copy. -/
def remember (n : Node) : Exec Unit := do
  match n with
  | .simple _ _ (first :: _) _ =>
    match plain? first with
    | some name =>
      let _ ← lookUp true none name
    | none => pure ()
  | _ => pure ()

/-- An alias as it is listed. -/
def aliasLine (a : Bytes × Bytes) : Bytes := line (a.1 ++ '=' :: Quotation.shown a.2)

/-- Says what a name stands for, in words or as what could be typed. -/
def describe (folders : Option Bytes) (inWords : Bool) (name : Bytes) : Exec Outcome := do
  let s ← Exec.shell
  let said : String → Bytes → Outcome := fun words short =>
    { output := line (if inWords then name ++ say words else short) }
  if (Keyword.ofBytes? name).isSome then return said " is a shell keyword" name
  match s.aliases.lookup name with
  | some value =>
    return { output := if inWords then line (name ++ say " is an alias for " ++ value)
      else say "alias " ++ aliasLine (name, value) }
  | none => pure ()
  let missing : Outcome :=
    { status := 127, output := if inWords then line (name ++ say ": not found") else [] }
  let program : Bytes → Bool → Outcome := fun path tracked =>
    { output := line (if inWords then
        name ++ say (if tracked then " is a tracked alias for " else " is ") ++ path
      else path) }
  match s.functions.lookup name, find? name with
  | some _, _ => return said " is a shell function" name
  | none, some b =>
    return said (if b.isSpecial then " is a special shell builtin" else " is a shell builtin") name
  | none, none =>
    if name.contains '/' then
      match (← Exec.world).files.entry s.place name with
      | .ok .missing => return missing
      | .ok _ => return program name false
      | .error _ => return missing
    else
      match ← searchProgram s folders name with
      | .ok path =>
        keep folders name path
        return program path (folders.isNone && (s.found.lookup name).isSome)
      | .error _ => return missing

/-- Says what names stand for. -/
def type (args : List Bytes) : Exec Outcome := do
  let all ← args.mapM (describe none true)
  return { status := if all.any fun o => o.status != 0 then 127 else 0
           output := all.flatMap Outcome.output }

/-- Says what a name stands for, in the way that options ask for. -/
def command (args : List Bytes) : Exec Outcome := do
  let (options, args) ← options "pvV" args
  let has : Char → Bool := fun c => options.any fun o => o.1 == c
  match args with
  | name :: _ =>
    if has 'v' || has 'V' then
      describe (if has 'p' then some defaultFolders else none) (has 'V') name
    else return {}
  | [] => return {}

/-- The programs that were found, as they are listed. -/
def hash (args : List Bytes) : Exec Outcome := do
  let (options, names) ← options "r" args
  if !options.isEmpty then
    Exec.modifyShell fun s => { s with found := [] }
    return {}
  if names.isEmpty then
    return { output := (byRows 31 (← Exec.shell).found).flatMap fun e => line e.2 }
  let mut status := 0
  for name in names do
    match ← lookUp true none name with
    | .nothing e =>
      Exec.complain (name ++ say (": " ++ e.message))
      status := 1
    | _ => pure ()
  return { status := status }

/-! ## Aliases -/

/-- A shell with an alias for a value. -/
def setAlias (name value : Bytes) (s : Interpreter) : Interpreter :=
  if s.aliases.any fun a => a.1 == name then
    { s with aliases := s.aliases.map fun a => if a.1 == name then (name, value) else a }
  else { s with aliases := s.aliases ++ [(name, value)] }

/-- Sets aliases, or shows them, one after the other. -/
def setAliases : List Bytes → Exec Outcome
  | [] => return {}
  | argument :: rest => do
    let name := argument.take 1 ++ (argument.drop 1).takeWhile (· != '=')
    let first : Outcome ←
      if name.length < argument.length then do
        Exec.modifyShell (setAlias name (argument.drop (name.length + 1)))
        pure {}
      else
        match (← Exec.shell).aliases.lookup name with
        | some value => pure { output := aliasLine (name, value) }
        | none => do
          note (say "alias: " ++ name ++ say " not found")
          pure { status := 1 }
    let others ← setAliases rest
    return { status := max first.status others.status, output := first.output ++ others.output }

/-- Sets aliases, or lists them. -/
def aliases (args : List Bytes) : Exec Outcome := do
  if args.isEmpty then
    return { output := (byRows 39 (← Exec.shell).aliases).flatMap aliasLine }
  setAliases args

/-- Forgets aliases. -/
def unalias (args : List Bytes) : Exec Outcome := do
  let (options, names) ← options "a" args
  if !options.isEmpty then
    Exec.modifyShell fun s => { s with aliases := [] }
    return {}
  let mut status := 0
  for name in names do
    if ((← Exec.shell).aliases.lookup name).isNone then
      note (say "unalias: " ++ name ++ say " not found")
      status := 1
    Exec.modifyShell fun s => { s with aliases := s.aliases.filter fun a => a.1 != name }
  return { status := status }

end Builtin

end Dql.Shell
