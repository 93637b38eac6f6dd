import Dql.Shell.Expansion

/-!
# Redirections

A redirection makes a descriptor lead to a file, to a document of the script or to where
another descriptor leads. Names of files are expanded before any of the redirections of a
command is carried out; these then follow one another, so that a later one sees what an
earlier one did. What the descriptors led to before is put back when the command ends.
-/

namespace Dql.Shell

/-- Why a file cannot be opened. -/
inductive OpenError where
  | missing
  | notFolder
  | isFolder
  | exists
  | noDevice
  | tooLong
deriving DecidableEq, Repr

/-- The wording of a program for why a file cannot be opened. -/
def OpenError.message : OpenError → String
  | missing => "No such file or directory"
  | notFolder => "Not a directory"
  | isFolder => "Is a directory"
  | .exists => "File exists"
  | noDevice => "No such device or address"
  | tooLong => "File name too long"

/-- The wording of the shell. -/
def OpenError.shellMessage (creating : Bool) : OpenError → String
  | missing | notFolder => if creating then "Directory nonexistent" else "No such file"
  | e => e.message

namespace OpenMode

/-- Whether a file is made if there is none. -/
def creates : OpenMode → Bool
  | read => false
  | _ => true

/-- Whether what a file holds is lost. -/
def truncates : OpenMode → Bool
  | write | overwrite => true
  | _ => false

/-- An opening of a target. -/
def opening (mode : OpenMode) (target : Target) : Opening where
  target := target
  readable := mode == .read || mode == .readWrite
  writable := mode != .read
  appending := mode == .append

end OpenMode

/-- Opens what stands at a place. `guarded` says that files that are there are not written. -/
def openPlace (w : World) (s : Interpreter) (mode : OpenMode) (guarded : Bool) (place : Place) :
    Except OpenError (Nat × World) :=
  let found : Target → World → Except OpenError (Nat × World) := fun target w =>
    .ok (w.addOpening (mode.opening target))
  let file : Place → Except OpenError (Nat × World) := fun place =>
    if guarded && mode == .write then .error .exists
    else found (.file place)
      (if mode.truncates then { w with files := w.files.put place .empty } else w)
  match w.files.entryAt place with
  | .missing =>
    if mode.creates then
      found (.file place) { w with files := w.files.put place .empty }
    else .error .missing
  | .folder => if mode.creates then .error .isFolder else found .folder w
  | .file _ => file place
  | .program => file place
  | .device .null => found .null w
  | .device .full => found .full w
  | .device .terminal => .error .noDevice
  | .device (.descriptor n) =>
    match (s.opening? n).bind fun o => w.openings[o]? with
    | none => .error .missing
    | some o =>
      match o.target with
      | .file place => file place
      | .folder => if mode.creates then .error .isFolder else found .folder w
      | target => found target w

/-- Opens a file. -/
def openFile (mode : OpenMode) (guarded : Bool) (path : Bytes) :
    Exec (Except OpenError Nat) := do
  let s ← Exec.shell
  let w ← Exec.world
  let opened : Except OpenError (Nat × World) :=
    if mode.creates && path.getLast? == some '/' then .error .isFolder
    else
      match w.files.place s.place path with
      | .error .missing => .error .missing
      | .error .notFolder => .error .notFolder
      | .error .tooLong => .error .tooLong
      | .ok place => openPlace w s mode guarded place
  match opened with
  | .error e => return .error e
  | .ok (n, w) =>
    Exec.modifyWorld fun _ => w
    return .ok n

/-- All that a file holds; the shell reads it as a script. -/
def readFile (path : Bytes) : Exec (Except OpenError Bytes) := do
  match ← openFile .read false path with
  | .error e => return .error e
  | .ok n =>
    match (← Exec.world).available n with
    | .ok bytes =>
      Exec.modifyWorld fun w => w.advance n bytes.size
      return .ok (Bytes.ofArray bytes)
    | .error _ => return .ok []

namespace Redirect

/-- The descriptor that a redirection changes. -/
def descriptor : Redirect → Nat
  | file d _ _ => d
  | copy d _ => d
  | close d => d
  | document d _ => d

/-- Expands the words of a redirection. -/
def expand (out : Substitution) : Redirection → Exec Redirect
  | .file d mode name => return .file d mode (← Expansion.bytes out { tilde := true } name)
  | .copy d (.descriptor n) => return .copy d n
  | .copy d .nothing => return .close d
  | .document d number => return .document d number
  | .copy d (.word w) => do
    match ← Expansion.bytes out { tilde := true } w with
    | ['-'] => return .close d
    | [c] => if c.isDigit then return .copy d (digitValue c) else refuse
    | _ => refuse
where
  /-- Complains of a descriptor that is none. -/
  refuse {α : Type} : Exec α := do
    Exec.modifyShell fun s => { s with errorLine := s.sourceLine }
    Exec.fail (say "Syntax error: Bad fd number")

/-- Makes a descriptor lead somewhere. -/
def lead (descriptor : Nat) (opening : Option Nat) : Exec Unit :=
  Exec.modifyShell fun s => s.redirect descriptor opening

/-- Carries a redirection out. -/
def apply (out : Substitution) : Redirect → Exec Unit
  | .file d mode path => do
    match ← openFile mode ((← Exec.shell).has 'C') path with
    | .ok n => lead d (some n)
    | .error e =>
      let verb := if mode.creates then "cannot create " else "cannot open "
      Exec.fail (say verb ++ path ++ say (": " ++ e.shellMessage mode.creates))
  | .copy d source => do
    if d = source then return
    match (← Exec.shell).opening? source with
    | some n => lead d (some n)
    | none => Exec.fail (Bytes.ofNat source ++ say ": Bad file descriptor")
  | .close d => lead d none
  | .document d number => do
    let text := ((← Exec.shell).documents.find? fun h => h.number == number).map (·.text)
    let bytes ← Expansion.bytes out { quoted := true } (text.getD [])
    let ((source, _), w) := (← Exec.world).addPipe (Bytes.toArray bytes)
    Exec.modifyWorld fun _ => w
    lead d (some source)

/-- Carries redirections out one after the other. -/
def applyAll (out : Substitution) (rs : List Redirect) : Exec Unit := rs.forM (apply out)

/-- Puts back what some descriptors led to. -/
def restore (before : List (Nat × Nat)) (rs : List Redirect) : Exec Unit :=
  rs.forM fun r => lead r.descriptor (before.lookup r.descriptor)

end Redirect

end Dql.Shell
