import Dql.Files
import Dql.Shell.Numeral
import Dql.Shell.Syntax

/-!
# The state of a shell

What a script acts on has two halves. The `World` is shared by all that run at the same time:
files, pipes, what was opened, and the time that has passed. An `Interpreter` is one of them: its
variables, functions and options, where its descriptors lead, and how it got here. A
subshell starts with a copy of the shell and ends without a trace of its own but in the world.

Commands are actions on both (`Exec`). An action may stop instead of ending: at an error, at
the end of the shell, or on its way out of a loop or of a function.
-/

namespace Dql.Shell

/-- What has been opened. -/
inductive Target where
  | pipe (n : Nat)
  | file (place : Place)
  | folder
  /-- Takes everything, gives nothing. -/
  | null
  /-- Takes nothing. -/
  | full
deriving DecidableEq, Repr

/-- Something that has been opened, shared by all descriptors that are copies. -/
structure Opening where
  target : Target
  readable : Bool := true
  writable : Bool := false
  /-- Whether writing goes to the end of the file. -/
  appending : Bool := false
  /-- The place in the file. -/
  offset : Nat := 0

/-- A pipe: what was written into it, and how much of that has been read. -/
structure Pipe where
  content : ByteArray := .empty
  position : Nat := 0

/-- A variable. -/
structure Variable where
  /-- None if the variable is known but not set. -/
  value : Option Bytes
  exported : Bool := false
  fixed : Bool := false

/-- What is put back at the end of a function or of a command. -/
inductive Saved where
  | variable (name : Bytes) (before : Option Variable)
  | options (letters : List Char)

/-- A shell. -/
structure Interpreter where
  /-- The name it goes by. -/
  name : Bytes
  arguments : List Bytes := []
  /-- The process of the shell, and that of the one which it is a copy of in the end. -/
  self : Nat := 0
  process : Nat := 0
  bindings : List (Bytes × Variable) := []
  functions : List (Bytes × Node) := []
  aliases : List (Bytes × Bytes) := []
  /-- The letters of the options that are on. -/
  options : List Char := []
  /-- The status of the last command. -/
  status : Nat := 0
  /-- The status of the last command whose output stands in the command that is being run. -/
  substituted : Nat := 0
  /-- What descriptors lead to. -/
  descriptors : List (Nat × Nat) := []
  /-- The current folder, and the path that led to it. -/
  place : Place := workingPlace
  directory : Bytes := workingName
  /-- What is done at signals; zero is the end of the shell. -/
  traps : List (Nat × Bytes) := []
  /-- The builtin that complaints are about. -/
  builtin : Option Bytes := none
  /-- The line that complaints are about. -/
  errorLine : Nat := 0
  /-- Whether the mark in front of commands that are shown is being expanded. -/
  marking : Bool := false
  /-- The line up to which the script has been read. -/
  sourceLine : Nat := 1
  /-- The loops that are being run. -/
  loops : Nat := 0
  /-- The functions that are being run. -/
  depth : Nat := 0
  /-- What is put back, innermost first. -/
  saved : List (List Saved) := []
  /-- The process of the last command that was not waited for. -/
  lastBackground : Option Nat := none
  /-- The processes that were started and not waited for, by the number of their job, and those
  among them that have been waited for since. -/
  jobs : List (Nat × Nat) := []
  waited : List Nat := []
  /-- The argument whose options are read next, and how far they have been read. -/
  optionIndex : Nat := 1
  optionOffset : Option Nat := none
  /-- The programs that have been looked for, and where they were found. -/
  found : List (Bytes × Bytes) := []
  mask : Nat := 0o022
  documents : List HereDocument := []
  nextDocument : Nat := 0

/-- A redirection whose words have been expanded. -/
inductive Redirect where
  | file (descriptor : Nat) (mode : OpenMode) (path : Bytes)
  | copy (descriptor source : Nat)
  | close (descriptor : Nat)
  | document (descriptor number : Nat)
deriving DecidableEq, Repr

/-- A command that is not waited for, and has not been run yet. -/
structure Job where
  process : Nat
  body : Node
  redirects : List Redirect
  shell : Interpreter
  /-- When it was started. -/
  start : Nat
  /-- When a signal ends it, and which. -/
  stop : Option (Nat × Nat) := none

/-- All that is shared by what runs at the same time. -/
structure World where
  files : Files := {}
  pipes : Array Pipe := #[]
  openings : Array Opening := #[]
  /-- The time that has passed, in microseconds. -/
  clock : Nat := 0
  pending : List Job := []
  /-- The jobs that have ended, with their status. -/
  ended : List (Nat × Nat) := []
  /-- The signals that processes have got and not answered. -/
  signals : List (Nat × Nat) := []
  /-- When a signal ends the job that is being run, and which. -/
  deadline : Option (Nat × Nat) := none
  /-- Whether jobs are only run to see when they end. -/
  isTrial : Bool := false
  nextProcess : Nat := 1000

/-- Why an action stops before its end. -/
inductive Stop where
  /-- The shell ends with its status. -/
  | exit
  /-- Something is wrong that ends a shell which reads a script. -/
  | error
  | break (loops : Nat)
  | continue (loops : Nat)
  | return
  /-- Another program takes the place of the shell, and has ended with its status. -/
  | replaced
  /-- A signal ends the shell. -/
  | killed (signal : Nat)
  /-- A signal ends the job that the shell is part of. -/
  | halted (signal : Nat)
  /-- It runs forever. -/
  | endless
deriving DecidableEq, Repr

/-- What an action acts on. -/
structure State where
  world : World
  shell : Interpreter

/-- An action of a shell. -/
abbrev Exec := ExceptT Stop (StateM State)

/-! ## Pipes and files -/

/-- Why something cannot be read or written. -/
inductive AccessError where
  | badDescriptor
  | noSpace
  | isFolder
deriving DecidableEq, Repr

/-- The wording of why something cannot be read or written. -/
def AccessError.message : AccessError → String
  | badDescriptor => "Bad file descriptor"
  | noSpace => "No space left on device"
  | isFolder => "Is a directory"

/-- Bytes with others written over them from a place on, zeros in between. -/
def overwrite (content : ByteArray) (offset : Nat) (bytes : ByteArray) : ByteArray :=
  let front := content.extract 0 offset
  let gap : ByteArray := ⟨Array.replicate (offset - front.size) 0⟩
  front ++ gap ++ bytes ++ content.extract (offset + bytes.size) content.size

namespace World

/-- Adds an opening. -/
def addOpening (w : World) (o : Opening) : Nat × World :=
  (w.openings.size, { w with openings := w.openings.push o })

/-- Adds a pipe that holds something, with openings to read from it and to write into it. -/
def addPipe (w : World) (content : ByteArray) : (Nat × Nat) × World :=
  let target := Target.pipe w.pipes.size
  let w := { w with pipes := w.pipes.push { content := content } }
  let (source, w) := w.addOpening { target := target }
  let (sink, w) := w.addOpening { target := target, readable := false, writable := true }
  ((source, sink), w)

/-- The content of a file. -/
def contentOf (w : World) (place : Place) : ByteArray :=
  match w.files.entryAt place with
  | .file content => content
  | _ => .empty

/-- What can be read from an opening. -/
def available (w : World) (n : Nat) : Except AccessError ByteArray :=
  match w.openings[n]? with
  | none => .error .badDescriptor
  | some o =>
    if !o.readable then .error .badDescriptor
    else
      match o.target with
      | .pipe p =>
        match w.pipes[p]? with
        | some pipe => .ok (pipe.content.extract pipe.position pipe.content.size)
        | none => .ok .empty
      | .file place =>
        let content := w.contentOf place
        .ok (content.extract o.offset content.size)
      | .folder => .error .isFolder
      | .null => .ok .empty
      | .full => .ok .empty

/-- Marks so many bytes of an opening as read. -/
def advance (w : World) (n count : Nat) : World :=
  match w.openings[n]? with
  | none => w
  | some o =>
    match o.target with
    | .pipe p =>
      { w with pipes := w.pipes.modify p fun pipe =>
          { pipe with position := pipe.position + count } }
    | _ =>
      { w with openings := w.openings.modify n fun o => { o with offset := o.offset + count } }

/-- Writes to an opening. -/
def write (w : World) (n : Nat) (bytes : ByteArray) : Except AccessError World :=
  match w.openings[n]? with
  | none => .error .badDescriptor
  | some o =>
    if !o.writable then .error .badDescriptor
    else if bytes.isEmpty then .ok w
    else
      match o.target with
      | .pipe p =>
        .ok { w with pipes := w.pipes.modify p fun pipe =>
          { pipe with content := pipe.content ++ bytes } }
      | .file place =>
        let content := w.contentOf place
        let offset := if o.appending then content.size else o.offset
        .ok { w with
          files := w.files.put place (overwrite content offset bytes)
          openings := w.openings.modify n fun o => { o with offset := offset + bytes.size } }
      | .folder => .error .isFolder
      | .null => .ok w
      | .full => .error .noSpace

end World

/-! ## Variables -/

namespace Interpreter

/-- Whether an option is on. -/
def has (s : Interpreter) (option : Char) : Bool := s.options.contains option

/-- A shell with an option on or off. -/
def setOption (s : Interpreter) (option : Char) (on : Bool) : Interpreter :=
  let others := s.options.filter (· != option)
  { s with options := if on then option :: others else others }

/-- A variable. -/
def find? (s : Interpreter) (name : Bytes) : Option Variable :=
  (s.bindings.find? fun v => v.1 == name).map (·.2)

/-- The value of a variable. -/
def value? (s : Interpreter) (name : Bytes) : Option Bytes :=
  (s.find? name).bind Variable.value

/-- A shell with a variable, or without one. -/
def put (s : Interpreter) (name : Bytes) (v : Option Variable) : Interpreter :=
  let others := s.bindings.filter fun e => e.1 != name
  { s with bindings := match v with
    | some v => (name, v) :: others
    | none => others }

/-- What separates the fields of a value. -/
def separators (s : Interpreter) : Bytes := (s.value? (say "IFS")).getD [' ', '\t', '\n']

/-- What a descriptor leads to. -/
def opening? (s : Interpreter) (descriptor : Nat) : Option Nat := s.descriptors.lookup descriptor

/-- A shell whose descriptor leads elsewhere, or nowhere. -/
def redirect (s : Interpreter) (descriptor : Nat) (opening : Option Nat) : Interpreter :=
  let others := s.descriptors.filter fun d => d.1 != descriptor
  { s with descriptors := match opening with
    | some o => (descriptor, o) :: others
    | none => others }

/-- What a new program sees of the variables. -/
def environment (s : Interpreter) : List (Bytes × Bytes) :=
  s.bindings.filterMap fun (name, v) =>
    match v.exported, v.value with
    | true, some value => some (name, value)
    | _, _ => none

end Interpreter

/-! ## Actions -/

namespace Exec

/-- The shell. -/
def shell : Exec Interpreter := return (← get).shell

/-- Changes the shell. -/
def modifyShell (f : Interpreter → Interpreter) : Exec Unit :=
  modify fun s => { s with shell := f s.shell }

/-- The world. -/
def world : Exec World := return (← get).world

/-- Changes the world. -/
def modifyWorld (f : World → World) : Exec Unit := modify fun s => { s with world := f s.world }

/-- Sets the status. -/
def setStatus (status : Nat) : Exec Unit := modifyShell fun s => { s with status := status }

/-- Runs an action and then, however it ended, another. -/
def ensuring {α : Type} (action : Exec α) (after : Exec Unit) : Exec α := fun s =>
  let (result, s) := action.run s
  let (_, s) := after.run s
  (result, s)

/-- Runs an action and answers how it stopped, if it did. -/
def caught (action : Exec Unit) : Exec (Option Stop) := fun s =>
  match action.run s with
  | (.ok _, s) => (.ok none, s)
  | (.error stop, s) => (.ok (some stop), s)

/-- Writes to a descriptor; none if that went well. -/
def writeTo (descriptor : Nat) (bytes : Bytes) : Exec (Option AccessError) := do
  match (← shell).opening? descriptor with
  | none => return if bytes.isEmpty then none else some .badDescriptor
  | some n =>
    match (← world).write n (Bytes.toArray bytes) with
    | .ok w =>
      modifyWorld fun _ => w
      return none
    | .error e => return if bytes.isEmpty then none else some e

/-- Complains on the descriptor for complaints. -/
def complain (message : Bytes) : Exec Unit := do
  let s ← shell
  let about := match s.builtin with
    | some b => b ++ say ": "
    | none => []
  let _ ← writeTo 2 (s.name ++ say ": " ++ .ofNat s.errorLine ++ say ": " ++ about ++ message ++
    ['\n'])

/-- Complains and stops with status 2. -/
def fail {α : Type} (message : Bytes) : Exec α := do
  setStatus 2
  complain message
  throw .error

/-- Complains of a name that no variable can have, and of a variable that cannot change. -/
def checkVariable (name : Bytes) : Exec Unit := do
  if !isName name then fail (name ++ say ": bad variable name")
  if ((← shell).find? name).any Variable.fixed then fail (name ++ say ": is read only")

/-- Sets a variable to a value, or to none that is set. -/
def putVariable (name : Bytes) (value : Option Bytes) : Exec Unit := do
  checkVariable name
  modifyShell fun s =>
    let v := (s.find? name).getD { value := none }
    let s := s.put name (some { v with value := value, exported := v.exported || s.has 'a' })
    if name = say "PATH" then { s with found := [] } else s

/-- Sets a variable. -/
def setVariable (name value : Bytes) : Exec Unit := do
  putVariable name (some value)
  if name = say "OPTIND" then
    match Numeral.whole? true value with
    | some n =>
      modifyShell fun s => { s with optionIndex := max 1 n.toNat, optionOffset := none }
    | none => fail (say "Illegal number: " ++ value)

/-- Forgets a variable. -/
def unsetVariable (name : Bytes) : Exec Unit := do
  checkVariable name
  modifyShell fun s =>
    let s := s.put name none
    if name = say "PATH" then { s with found := [] } else s

/-- Keeps a variable to be put back at the end of the function or command. -/
def saveVariable (name : Bytes) : Exec Unit := modifyShell fun s =>
  match s.saved with
  | [] => s
  | first :: rest => { s with saved := (.variable name (s.find? name) :: first) :: rest }

/-- Puts back what was kept innermost. -/
def restoreSaved : Exec Unit := modifyShell fun s =>
  match s.saved with
  | [] => s
  | first :: rest =>
    first.foldl (fun s kept => match kept with
      | .variable name before => s.put name before
      | .options letters => { s with options := letters }) { s with saved := rest }

/-- Reads an argument that is a natural. -/
def number (argument : Bytes) : Exec Nat := do
  match Numeral.whole? true argument with
  | some n =>
    if 0 ≤ n ∧ n ≤ Int32.maxValue.toInt then return n.toNat
    fail (say "Illegal number: " ++ argument)
  | none => fail (say "Illegal number: " ++ argument)

end Exec

end Dql.Shell
