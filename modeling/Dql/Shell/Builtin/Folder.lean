import Dql.Shell.Builtin.Basic

/-!
# Builtins on the current folder

The current folder has a path, the one that led to it: two points in a path take its last
name away, and are not looked up in the files. `cd` changes both, `pwd` shows the path.
-/

namespace Dql.Shell.Builtin

/-- Names with points taken out of them, in reverse. -/
def simplify (here : List Bytes) : List Bytes → List Bytes
  | [] => here
  | name :: rest =>
    if Path.isIdleName name then simplify here rest
    else if name = ['.', '.'] then simplify here.tail rest
    else simplify (name :: here) rest

/-- Whether a path starts with two slashes, which mean more than one. -/
def isDoubled (path : Bytes) : Bool :=
  match path with
  | '/' :: '/' :: rest => rest.head? != some '/'
  | _ => false

/-- The path of the folder that a path leads to from another path. -/
def follow (directory path : Bytes) : Bytes :=
  let (here, before) := Path.start [] directory
  let (start, names) := Path.start (simplify here.reverse before).reverse path
  let found := Path.ofPlace (simplify start.reverse names).reverse
  let doubled := isDoubled path || (path.head? != some '/' && isDoubled directory)
  if doubled then '/' :: found else found

/-- Goes to a folder, and answers whether that could be done. -/
def enter (physical : Bool) (path : Bytes) : Exec Bool := do
  let s ← Exec.shell
  let files := (← Exec.world).files
  let directory := if physical then [] else follow s.directory path
  match files.place s.place (if physical then path else directory) with
  | .error _ => return false
  | .ok place =>
    match files.entryAt place with
    | .folder =>
      let directory := if physical then Path.ofPlace place else directory
      let exported : Bytes → Bytes → Exec Unit := fun name value => do
        Exec.setVariable name value
        Exec.modifyShell fun s =>
          s.put name ((s.find? name).map fun v => { v with exported := true })
      Exec.modifyShell fun s => { s with place := place, directory := directory }
      exported (say "OLDPWD") s.directory
      exported (say "PWD") directory
      return true
    | _ => return false

/-- Whether a path is looked for in the current folder only. -/
def isDirect (path : Bytes) : Bool :=
  match Bytes.splitAt '/' path with
  | [] => false
  | first :: _ => path.head? == some '/' || first == ['.'] || first == ['.', '.']

/-- The paths that a folder may have, each with whether it is shown. -/
def candidates (s : Interpreter) (path : Bytes) : List (Bytes × Bool) :=
  match s.value? (say "CDPATH") with
  | none => []
  | some folders => (Bytes.splitAt ':' folders).map fun folder =>
    if folder.isEmpty then (path, false) else (folder ++ '/' :: path, true)

/-- Changes the current folder. -/
def cd (args : List Bytes) : Exec Outcome := do
  let (options, args) ← options "LP" args
  let physical := (options.getLast?.map (·.1)) == some 'P'
  let s ← Exec.shell
  let back := args.head? == some ['-']
  let wanted := match args with
    | [] => (s.value? (say "HOME")).getD []
    | ['-'] :: _ => (s.value? (say "OLDPWD")).getD []
    | path :: _ => path
  let path := if wanted.isEmpty then ['.'] else wanted
  let files := (← Exec.world).files
  let isFolder : Bytes × Bool → Bool := fun c => match files.entry s.place c.1 with
    | .ok .folder => true
    | _ => false
  let found := if isDirect wanted then none else (candidates s path).find? isFolder
  let (path, shown) := found.getD (path, false)
  if !(← enter physical path) then Exec.fail (say "can't cd to " ++ wanted)
  let directory := (← Exec.shell).directory
  return { output := if back || shown then line directory else [] }

/-- Shows the current folder. -/
def pwd (args : List Bytes) : Exec Outcome := do
  let (options, _) ← options "LP" args
  let s ← Exec.shell
  let physical := (options.getLast?.map (·.1)) == some 'P'
  return { output := line (if physical then Path.ofPlace s.place else s.directory) }

end Dql.Shell.Builtin
