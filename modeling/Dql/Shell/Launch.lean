import Dql.Program
import Dql.Shell.Run

/-!
# Starting programs

A program is started in the working directory with something to read, and with nothing in
its environment but what is needed to find other programs. Its name is looked up like that
of a command in a script, unless it has a slash in it. When the program has ended, the jobs that
may still write are run, since what they write belongs to the output.

The rest of the library knows programs by a `Launcher` only, and what is said of requests is said
of any. The one here interprets scripts in memory. So a run of the command line is a function of
the files and the input that it starts from, also where settings name a script as the parser or
as the store.
-/

namespace Dql.Shell

/-- Why a path cannot be started. -/
def startErrorOf : PathError → StartError
  | .missing => .notFound
  | .notFolder => .notFolder
  | .tooLong => .tooLong

/-- The path of the program of a name. -/
def programPath (f : Files) (name : Bytes) : Except StartError Bytes :=
  if name.contains '/' then
    match f.entry workingPlace name with
    | .error e => .error (startErrorOf e)
    | .ok .program => .ok name
    | .ok .missing => .error .notFound
    | .ok _ => .error .denied
  else if name.isEmpty then .error .notFound
  else if Path.nameBound < name.length then .error .tooLong
  else
    let folders := Bytes.splitAt ':' Builtin.defaultFolders
    match Builtin.searchFolders f workingPlace name .missing folders with
    | .ok path => .ok path
    | .error .missing => .error .notFound
    | .error .denied => .error .denied

/-- The process of a program that is started, and the one that starts it. -/
def firstProcess : Nat := 100

/-- The microseconds that starting a program takes. -/
def startingTime : Nat := 3000

/-- The pipes of a program: what it reads, what it writes, and what it complains of. -/
def firstWorld (f : Files) (input : ByteArray) : World where
  files := f
  pipes := #[{ content := input }, {}, {}]
  openings := #[
    { target := .pipe 0 }, { target := .pipe 1, readable := false, writable := true },
    { target := .pipe 2, readable := false, writable := true }]
  clock := startingTime

/-- The shell that a program is started from. -/
def firstShell (environment : List (Bytes × Bytes)) : Interpreter where
  name := []
  self := firstProcess
  process := firstProcess - 1
  bindings := environment.map fun v => (v.1, { value := some v.2, exported := true })
  descriptors := [(0, 0), (1, 1), (2, 2)]

/-- Runs a program and what it leaves behind, and answers its status. -/
def runToEnd (path : Bytes) (args : List Bytes) : Exec Nat := do
  let r := run runBound
  let (status, _) ← inCopy r (execute r path args)
  drain r (.pipe 1)
  drain r (.pipe 2)
  return status

/-- What has gone into a pipe. -/
def World.written (w : World) (pipe : Nat) : ByteArray :=
  ((w.pipes[pipe]?).map Pipe.content).getD .empty

/-- The time that something takes that never ends. -/
def forever : Duration := ⟨UInt64.size⟩

/-- How a program ends, and the files that it leaves. -/
def ending (files : Files) (environment : List (Bytes × Bytes)) (path : Bytes)
    (args : List Bytes) (input : ByteArray) : Ending × Files :=
  let start : State := { world := firstWorld files input, shell := firstShell environment }
  let (outcome, s) := (runToEnd path args).run start
  let w := s.world
  let finished (status : Nat) (elapsed : Duration) : Ending :=
    ⟨status, w.written 1, w.written 2, elapsed⟩
  match outcome with
  | .ok status => (finished status ⟨w.clock / 1000⟩, w.files)
  | .error _ => (finished 1 forever, w.files)

/-- Whether a text holds the character NUL. -/
def holdsNul (s : String) : Bool := s.toList.contains '\x00'

/-- Starts programs with some variables in their environment. -/
def launch (environment : List (Bytes × Bytes)) : Launcher := fun files c input =>
  if holdsNul c.program || c.arguments.any holdsNul then (.error .nul, files)
  else
    let name := Bytes.ofString c.program
    match programPath files name with
    | .error e => (.error e, files)
    | .ok path =>
      let (ending, files) := ending files environment path
        (name :: c.arguments.map Bytes.ofString) input
      (.ok ending, files)

/-- The variable that says where programs are. -/
def programVariables : List (Bytes × Bytes) := [(say "PATH", Builtin.defaultFolders)]

end Dql.Shell
