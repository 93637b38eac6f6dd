import Dql.Shell.Builtin.Command
import Dql.Shell.Builtin.Job
import Dql.Shell.Builtin.Limit
import Dql.Shell.Builtin.Variable
import Dql.Shell.Grammar
import Dql.Shell.Utility

/-!
# Running commands

A command acts on the state and leaves a status. Commands hold commands, and running one may
mean to read and run a text, a function or another shell; so all of this is written with a
`Runner` for what is inside as an argument, and `run` ties the knot with fuel.

Breaking out of a loop, returning from a function and ending the shell are ways in which an
action stops (`Stop`); loops, functions and shells catch what is meant for them.

Nothing runs at the same time. The commands of a pipeline run one after the other, each from
the time when the first one started. A command that is not waited for runs when it is waited
for, when time passes that it would have ended in, or when what it may still write is read.
-/

namespace Dql.Shell

/-- Runs a command. The flag says that its failure is looked at, so that it does not end the
shell even where failures do. -/
abbrev Runner := Bool → Node → Exec Unit

/-! ## Texts -/

/-- Reads and runs commands of a source one after the other, so many at most, and answers the
status of the last one. -/
def runSource (r : Runner) (tested : Bool) : Nat → Nat → Source → Exec Nat
  | 0, status, _ => return status
  | n + 1, status, source => do
    let s ← Exec.shell
    match parseCommand { source with aliases := s.aliases, nextDocument := s.nextDocument } with
    | .error e =>
      Exec.modifyShell fun s => { s with errorLine := e.line }
      Exec.fail (say "Syntax error: " ++ e.message)
    | .ok (parsed, source) =>
      Exec.modifyShell fun s => { s with
        sourceLine := source.line
        documents := source.documents ++ s.documents
        nextDocument := source.nextDocument }
      let source := { source with documents := [] }
      match parsed with
      | .endOfFile => return status
      | .command none => runSource r tested n status source
      | .command (some command) =>
        r tested command
        runSource r tested n (← Exec.shell).status source

/-- Reads and runs a text, and answers the status of its last command. -/
def runText (r : Runner) (tested : Bool) (text : Bytes) : Exec Nat :=
  runSource r tested (text.length + 2) 0 (Source.ofBytes text [] 0)

/-! ## The end of a shell -/

/-- The status that a signal leaves. -/
def Stop.status? : Stop → Option Nat
  | killed signal => some (Builtin.signalStatus signal)
  | halted signal => some (Builtin.signalStatus signal)
  | _ => none

/-- Whether a shell that stops still does what is to be done at its end. -/
def Stop.isOrderly : Stop → Bool
  | killed _ | halted _ | replaced | endless => false
  | _ => true

/-- Does what is to be done at the end of a shell, which keeps its status. -/
def atExit (r : Runner) : Exec Unit := do
  match (← Exec.shell).traps.lookup 0 with
  | none => pure ()
  | some text =>
    let status := (← Exec.shell).status
    Exec.modifyShell fun s => Builtin.setTrap 0 none { s with builtin := none }
    match ← Exec.caught (discard (runText r false text)) with
    | none => Exec.setStatus status
    | some .return => Exec.setStatus status
    | some (.break _) => Exec.setStatus status
    | some (.continue _) => Exec.setStatus status
    | some .exit => pure ()
    | some .error => pure ()
    | some .replaced => pure ()
    | some other => throw other

/-- Runs an action as all that a shell does, and answers the signal that ends it, if one
does. -/
def untilEnd (r : Runner) (action : Exec Unit) : Exec (Option Nat) := do
  let outcome ← Exec.caught action
  let outcome ← if outcome.all Stop.isOrderly then Exec.caught (atExit r) else pure outcome
  match outcome with
  | some (.killed signal) =>
    Exec.setStatus (Builtin.signalStatus signal)
    return some signal
  | some (.halted signal) => throw (.halted signal)
  | some .endless => throw .endless
  | _ => return none

/-- A copy of a shell as a process of its own. -/
def Interpreter.copy (s : Interpreter) (process : Nat) : Interpreter :=
  { s with self := process, traps := s.traps.filter (·.2.isEmpty), jobs := [] }

/-- The number of a new process. -/
def newProcess : Exec Nat := do
  let n := (← Exec.world).nextProcess
  Exec.modifyWorld fun w => { w with nextProcess := n + 1 }
  return n

/-- Runs an action in a copy of the shell, and answers its status and the signal that ended
it, if one did. -/
def inCopy (r : Runner) (action : Exec Unit) : Exec (Nat × Option Nat) := do
  let before ← Exec.shell
  let process ← newProcess
  Exec.modifyShell fun s => s.copy process
  let ending : Exec (Nat × Option Nat) := do
    let signal ← untilEnd r action
    return ((← Exec.shell).status, signal)
  Exec.ensuring ending (Exec.modifyShell fun _ => before)

/-- Says which signal has ended a program that was waited for, unless it is an everyday
one. -/
def reportSignal (signal : Option Nat) : Exec Unit := do
  match signal.bind fun n => Signal.descriptions.lookup n with
  | some words => Builtin.note (say words)
  | none => pure ()

/-- Runs an action in a copy of the shell that is waited for, and answers its status. -/
def inWaitedCopy (r : Runner) (action : Exec Unit) : Exec Nat := do
  let (status, signal) ← inCopy r action
  reportSignal signal
  return status

/-! ## Signals -/

/-- Answers signals one after the other, as the traps say. -/
def answer (r : Runner) : List Nat → Exec Unit
  | [] => return
  | signal :: rest => do
    match (← Exec.shell).traps.lookup signal with
    | none => if !Signal.harmless.contains signal then throw (.killed signal)
    | some text =>
      if !text.isEmpty then
        let status := (← Exec.shell).status
        let _ ← runText r false text
        Exec.setStatus status
    answer r rest

/-- Answers the signals that the shell has got. -/
def answerSignals (r : Runner) : Exec Unit := do
  let self := (← Exec.shell).self
  let signals := (← Exec.world).signals
  if signals.any fun e => e.1 == self then
    Exec.modifyWorld fun w => { w with signals := w.signals.filter fun e => e.1 != self }
    let mine := (signals.filter fun e => e.1 == self).map (·.2)
    answer r (mine.eraseDups.mergeSort fun a b => a ≤ b)

/-! ## Jobs -/

/-- Runs a job from the time when it was started, and notes its status. -/
def runJob (r : Runner) (j : Job) : Exec Unit := do
  let before ← Exec.shell
  let now := (← Exec.world).clock
  let deadline := (← Exec.world).deadline
  Exec.modifyWorld fun w => { w with
    clock := j.start, deadline := j.stop
    pending := w.pending.filter fun other => other.process != j.process }
  Exec.modifyShell fun _ => j.shell
  let action : Exec Unit := do
    Redirect.applyAll (fun _ => return []) j.redirects
    r false j.body
  let outcome ← Exec.caught (discard (untilEnd r action))
  let status := ((outcome.bind Stop.status?).getD (← Exec.shell).status)
  Exec.modifyWorld fun w => { w with
    clock := max now w.clock, deadline := deadline, ended := (j.process, status) :: w.ended }
  Exec.modifyShell fun _ => before
  if outcome = some .endless then throw .endless

/-- Runs jobs one after the other. -/
def runJobs (r : Runner) : List Job → Exec Unit
  | [] => return
  | j :: rest => do
    runJob r j
    runJobs r rest

/-- Runs a job if it ends by a time. -/
def tryJob (r : Runner) (time : Nat) (j : Job) : Exec Unit := fun s =>
  let trial := { s with world := { s.world with isTrial := true, clock := j.start } }
  let (result, after) := (runJob r j).run trial
  match result with
  | .ok _ =>
    if after.world.clock ≤ time then
      (.ok (), { after with world := { after.world with
        isTrial := s.world.isTrial, clock := s.world.clock } })
    else (.ok (), s)
  | .error _ => (.ok (), s)

/-- Lets time pass. Jobs that end meanwhile are run, and what is to end meanwhile ends. -/
def letPass (r : Runner) (microseconds : Nat) : Exec Unit := do
  let w ← Exec.world
  let time := w.clock + microseconds
  if !w.isTrial then w.pending.forM (tryJob r time)
  match w.deadline with
  | some (stop, signal) =>
    if stop < time then
      Exec.modifyWorld fun w => { w with clock := max stop w.clock }
      throw (.halted signal)
  | none => pure ()
  if Utility.longest ≤ time then throw .endless
  Exec.modifyWorld fun w => { w with clock := time }

/-- The descriptors that a job makes lead elsewhere before anything else. -/
def Job.redirected (j : Job) : List Nat :=
  j.redirects.map Redirect.descriptor ++
    match j.body with
    | .simple _ _ _ rs => rs.map fun r => match r with
      | .file d _ _ => d
      | .copy d _ => d
      | .document d _ => d
    | _ => []

/-- Whether a job may write to a target. -/
def Job.writesTo (w : World) (target : Target) (j : Job) : Bool :=
  j.shell.descriptors.any fun d =>
    !j.redirected.contains d.1 && (w.openings[d.2]?).any fun o => o.writable && o.target == target

/-- Runs the jobs that may still write to a target. -/
def drain (r : Runner) (target : Target) : Exec Unit := do
  let w ← Exec.world
  runJobs r (w.pending.filter fun j => j.writesTo w target)

/-- The number of a new job: the least that no job has. -/
def newJobNumber (jobs : List (Nat × Nat)) : Nat :=
  ((List.range (jobs.length + 1)).map (· + 1)).find? (fun n => (jobs.lookup n).isNone) |>.getD 1

/-- Starts a job. -/
def startJob (body : Node) (redirects : List Redirect) : Exec Unit := do
  let process ← newProcess
  let w ← Exec.world
  let (source, w) := w.addOpening { target := .null }
  Exec.modifyWorld fun _ => w
  let s ← Exec.shell
  let jobs := s.jobs.filter fun j => (w.ended.lookup j.2).isNone || !s.waited.contains j.2
  Exec.modifyShell fun s => { s with
    lastBackground := some process, jobs := jobs ++ [(newJobNumber jobs, process)] }
  Exec.modifyWorld fun w => { w with pending := w.pending ++ [{
    process := process, body := body, redirects := redirects
    shell := (s.copy process).redirect 0 (some source), start := w.clock }] }

/-- Waits for jobs, all of the shell's or some, and answers the status of the last one. -/
def wait (r : Runner) (args : List Bytes) : Exec Outcome := do
  let (_, args) ← Builtin.options "" args
  let s ← Exec.shell
  let run : Nat → Exec (Option Nat) := fun process => do
    if !s.jobs.any fun j => j.2 == process then return none
    runJobs r ((← Exec.world).pending.filter fun j => j.process == process)
    Exec.modifyShell fun s => { s with waited := process :: s.waited }
    return (← Exec.world).ended.lookup process
  if args.isEmpty then
    s.jobs.forM fun j => discard (run j.2)
    return {}
  let mut status := 127
  for argument in args do
    let process ← if argument.head? = some '%' then Builtin.jobProcess argument
      else Exec.number argument
    match ← run process with
    | some n =>
      status := n
      reportSignal (if 128 < n then some (n - 128) else none)
    | none => status := 127
  return { status := status }

/-! ## Expansion of commands -/

/-- The output of a command, run in a copy of the shell. -/
def substitute (r : Runner) : Substitution := fun body => do
  match body with
  | none => return []
  | some body =>
    let ((source, sink), w) := (← Exec.world).addPipe .empty
    Exec.modifyWorld fun _ => w
    let status ← inWaitedCopy r do
      Exec.modifyShell fun s => s.redirect 1 (some sink)
      r false body
    if let some o := w.openings[sink]? then drain r o.target
    Exec.modifyShell fun s => { s with substituted := status }
    let bytes := match (← Exec.world).available source with
      | .ok bytes => Bytes.ofArray bytes
      | .error _ => []
    return (bytes.reverse.dropWhile (· == '\n')).reverse

/-- A simple command whose words are being expanded. -/
structure Calling where
  /-- The arguments in front of the name. -/
  front : List Bytes := []
  /-- Of these, the ones from the last `command` on. -/
  behind : List Bytes := []
  /-- The arguments from the name on. -/
  args : List Bytes := []
  rest : List Word := []
  /-- What the name stands for; none without a name. -/
  found : Option Found := none
  /-- Whether functions are looked for. -/
  functions : Bool := true
  /-- The folders that programs are looked for in, other than the shell's own. -/
  folders : Option Bytes := none
  /-- Whether the first command is a special builtin. -/
  special : Option Bool := none

/-- What is expected next of a command. -/
inductive Expected where
  | name
  | options
  | nameBehindMark
deriving DecidableEq, Repr

/-- Expands words until it is clear what command they call. -/
def resolve (out : Substitution) (expected : Expected) (c : Calling) (words : List Word)
    (pending : List Bytes) : Exec Calling := do
  match pending, words with
  | [], [] =>
    match c.behind with
    | [] => return c
    | first :: _ => return { c with
        args := c.behind, found := (Builtin.find? first).map .builtin
        front := c.front.take (c.front.length - c.behind.length) }
  | [], w :: rest => resolve out expected c rest (← Expansion.arguments out w)
  | a :: more, words =>
    let passed := { c with front := c.front ++ [a], behind := c.behind ++ [a] }
    let isOptions := match a with
      | '-' :: _ :: _ => expected == Expected.options
      | _ => false
    if isOptions then
      if a = ['-', '-'] then resolve out .nameBehindMark passed words more
      else if a.tail.all (· == 'p') then
        resolve out .options { passed with folders := some Builtin.defaultFolders } words more
      else
        return { c with
          args := c.behind ++ a :: more, rest := words
          found := (c.behind.head?.bind Builtin.find?).map .builtin
          front := c.front.take (c.front.length - c.behind.length) }
    else
      let c := if expected = Expected.name then c else { c with functions := false }
      let found ← Builtin.lookUp c.functions none a
      let c := { c with args := a :: more, rest := words, found := some found }
      match found with
      | .builtin b =>
        let c := { c with special := some (c.special.getD b.isSpecial) }
        if b.name = "command" then
          resolve out .options { c with
            front := c.front ++ [a], behind := [a], args := [], found := none } words more
        else return c
      | _ => return c
termination_by (words.length, pending.length)

/-- Expands the words of a command that are left. -/
def expandRest (out : Substitution) (c : Calling) : Exec Calling := do
  let assigns := match c.found with
    | some (.builtin b) => b.assigns
    | _ => false
  let more ← c.rest.mapM fun w =>
    if assigns && (assigned? w).isSome then do
      return [← Expansion.bytes out { assigns := true } w]
    else Expansion.arguments out w
  return { c with args := c.args ++ more.flatten, rest := [] }

/-! ## Programs -/

/-- Settings of a shell that is started. -/
def startVariables (s : Interpreter) (directory : Bytes) (parent : Nat) : List (Bytes × Variable) :=
  let own : List (Bytes × Bytes) := [
    (say "IFS", [' ', '\t', '\n']), (say "OPTIND", ['1']), (say "PPID", .ofNat parent),
    (say "PS1", say "# "), (say "PS2", say "> "), (say "PS4", say "+ ")]
  let given := s.environment.filter fun e => isName e.1 && (own.lookup e.1).isNone
  (own.map fun e => (e.1, { value := some e.2 })) ++
    (given.filter fun e => e.1 != say "PWD").map (fun e =>
      (e.1, { value := some e.2, exported := true })) ++
    [(say "PWD", { value := some directory, exported := true })]

/-- Reads all that there is to read as a script. -/
def scriptToRead : Exec Bytes := do
  match (← Exec.shell).opening? 0 with
  | none => return []
  | some n =>
    match (← Exec.world).available n with
    | .error _ => return []
    | .ok bytes =>
      Exec.modifyWorld fun w => w.advance n bytes.size
      return Bytes.ofArray bytes

/-- Runs a script that a new shell is started for, by its arguments. -/
def runScript (r : Runner) (args : List Bytes) : Exec Unit := do
  let found ← Builtin.settings true args.length { rest := args }
  let _ ← Exec.writeTo 1 found.output
  let run : Bytes → Exec Unit := fun text => do
    Exec.setStatus (← runText r false text)
  let readsInput := (← Exec.shell).has 's'
  if found.script then
    match found.rest with
    | [] => Exec.fail (say "-c requires an argument")
    | text :: rest =>
      match rest with
      | [] => pure ()
      | name :: rest => Exec.modifyShell fun s => { s with name := name, arguments := rest }
      run text
      if readsInput then run (← scriptToRead)
  else
    match readsInput, found.rest with
    | false, name :: rest =>
      match ← readFile name with
      | .error e =>
        Exec.fail (say "cannot open " ++ name ++ say (": " ++ e.shellMessage false))
      | .ok text =>
        Exec.modifyShell fun s => { s with name := name, arguments := rest }
        run text
    | _, rest =>
      Exec.modifyShell fun s => (s.setOption 's' true)
      Exec.modifyShell fun s => { s with arguments := rest }
      run (← scriptToRead)

/-- Makes the shell a new one that runs a script. -/
def becomeShell (r : Runner) (args : List Bytes) : Exec Unit := do
  let s ← Exec.shell
  let files := (← Exec.world).files
  let known := (s.value? (say "PWD")).filter fun path => match files.place s.place path with
    | .ok place => place == s.place
    | .error _ => false
  let directory := known.getD (Path.ofPlace s.place)
  Exec.modifyShell fun _ => {
    name := args.headD (say "sh")
    self := s.self, process := s.self
    bindings := startVariables s directory s.process
    descriptors := s.descriptors
    place := s.place, directory := directory
    traps := s.traps.filter (·.2.isEmpty)
    mask := s.mask }
  runScript r args.tail

/-- Runs a program in place of the shell, by its path and its arguments from its name on. -/
def runProgram (r : Runner) (path : Bytes) (args : List Bytes) : Exec Unit := do
  let name := (Bytes.splitAt '/' path).getLast?.getD []
  let program := args.headD []
  let rest := args.tail
  match String.ofList name with
  | "sh" => becomeShell r args
  | "dash" => becomeShell r args
  | "cat" => Exec.setStatus (← Utility.Cat.run program rest)
  | "echo" => Exec.setStatus (← Utility.echo program rest)
  | "printf" => Exec.setStatus (← Utility.printf program rest)
  | "pwd" => Exec.setStatus (← Utility.pwd program rest)
  | "false" => Exec.setStatus 1
  | "test" => Exec.setStatus (← Utility.test name rest)
  | "[" => Exec.setStatus (← Utility.test name rest)
  | "sleep" =>
    match ← Utility.sleepTime program rest with
    | .error status => Exec.setStatus status
    | .ok time =>
      letPass r time
      Exec.setStatus 0
  | _ => Exec.setStatus 0

/-- Runs a program in place of the shell, if there is one at a path. -/
def execute (r : Runner) (path : Bytes) (args : List Bytes) : Exec Unit := do
  let s ← Exec.shell
  let refuse : LookupError → Exec Unit := fun e => do
    Exec.complain (args.headD [] ++ say (": " ++ e.message))
    Exec.setStatus (if e = .missing then 127 else 126)
    throw .exit
  match (← Exec.world).files.entry s.place path with
  | .ok .program =>
    Exec.modifyShell fun s => { s with
      builtin := none, loops := 0, saved := [], traps := s.traps.filter (·.2.isEmpty) }
    let outcome ← Exec.caught (runProgram r path args)
    match outcome with
    | some (.killed n) => throw (.killed n)
    | some (.halted n) => throw (.halted n)
    | some .endless => throw .endless
    | _ =>
      if outcome.all Stop.isOrderly then atExit r
      throw .replaced
  | .ok .missing => refuse .missing
  | .ok _ => refuse .denied
  | .error _ => refuse .missing

/-! ## Builtins that run commands -/

/-- Runs a script in the shell itself. -/
def source (r : Runner) (args : List Bytes) : Exec Outcome := do
  let (_, args) ← Builtin.options "" args
  match args with
  | [] => return {}
  | name :: _ =>
    let s ← Exec.shell
    let files := (← Exec.world).files
    let isFile : Bytes → Bool := fun path => match files.entry s.place path with
      | .ok (.file _) => true
      | .ok .program => true
      | _ => false
    let folders := Bytes.splitAt ':' ((s.value? (say "PATH")).getD [])
    let paths := folders.map fun f => if f.isEmpty then name else f ++ '/' :: name
    match if name.contains '/' then some name else paths.find? isFile with
    | none => Exec.fail (name ++ say ": not found")
    | some path =>
      match ← readFile path with
      | .error e => Exec.fail (say "cannot open " ++ path ++ say (": " ++ e.shellMessage false))
      | .ok text =>
        Exec.modifyShell fun s => { s with builtin := some path }
        let action : Exec Unit := do Exec.setStatus (← runText r false text)
        match ← Exec.caught action with
        | none => pure ()
        | some .return => pure ()
        | some other => throw other
        return { status := (← Exec.shell).status }

/-- Runs arguments as a text. -/
def eval (r : Runner) (tested : Bool) (args : List Bytes) : Exec Outcome := do
  if args.isEmpty then return {}
  return { status := ← runText r tested (Bytes.join [' '] args) }

/-- Leaves loops, or goes on with them. -/
def leave (stop : Nat → Stop) (args : List Bytes) : Exec Outcome := do
  let n ← match args with
    | [] => pure 1
    | n :: _ => do
      let count ← Exec.number n
      if count = 0 then Exec.fail (say "Illegal number: " ++ n)
      pure count
  Exec.setStatus 0
  let loops := (← Exec.shell).loops
  if loops = 0 then return {}
  throw (stop (min n loops))

/-- Stops with a status. -/
def stopWith (stop : Stop) (args : List Bytes) : Exec Outcome := do
  match args with
  | [] => throw stop
  | n :: _ =>
    let status ← Exec.number n
    Exec.setStatus (if stop = .exit then status % 256 else status)
    throw stop

/-- Runs a program in place of the shell. -/
def exec (r : Runner) (args : List Bytes) : Exec Outcome := do
  let (_, args) ← Builtin.options "" args
  match args with
  | [] => return {}
  | name :: _ =>
    if name.contains '/' then
      execute r name args
      return {}
    match ← Builtin.searchProgram { ← Exec.shell with found := [] } none name with
    | .ok path =>
      execute r path args
      return {}
    | .error e =>
      Exec.complain (name ++ say (": " ++ e.message))
      Exec.setStatus (if e = .missing then 127 else 126)
      throw .exit

/-- Prints by a format. -/
def printFormat (args : List Bytes) : Exec Outcome := do
  let (_, args) ← Builtin.options "" args
  match args with
  | [] => Exec.fail (say "usage: printf format [arg ...]")
  | format :: rest =>
    let printed := Format.print format rest
    printed.complaints.reverse.forM Exec.complain
    return {
      status := if printed.failed then 2 else if printed.complaints.isEmpty then 0 else 1
      output := printed.reversed.reverse }

/-- Carries a builtin out. -/
def perform (r : Runner) (tested : Bool) (b : Builtin) (name : Bytes) (args : List Bytes) :
    Exec Outcome :=
  match b.name with
  | "." => source r args
  | ":" => return {}
  | "true" => return {}
  | "false" => return { status := 1 }
  | "[" => return { status := ← Utility.test name args }
  | "test" => return { status := ← Utility.test name args }
  | "alias" => Builtin.aliases args
  | "bg" => Builtin.moveJob args
  | "fg" => Builtin.moveJob args
  | "break" => leave .break args
  | "continue" => leave .continue args
  | "cd" => Builtin.cd args
  | "chdir" => Builtin.cd args
  | "command" => Builtin.command args
  | "echo" => return { output := echo args }
  | "eval" => eval r tested args
  | "exec" => exec r args
  | "exit" => stopWith .exit args
  | "export" => Builtin.exportVariables args
  | "getopts" => Builtin.getopts args
  | "hash" => Builtin.hash args
  | "jobs" => Builtin.jobs args
  | "kill" => Builtin.kill args
  | "local" => Builtin.localVariables args
  | "printf" => printFormat args
  | "pwd" => Builtin.pwd args
  | "read" => Builtin.read args
  | "readonly" => Builtin.readonly args
  | "return" => stopWith .return args
  | "set" => Builtin.set args
  | "shift" => Builtin.shift args
  | "times" => Builtin.times args
  | "trap" => Builtin.trap args
  | "type" => Builtin.type args
  | "ulimit" => Builtin.ulimit args
  | "umask" => Builtin.umask args
  | "unalias" => Builtin.unalias args
  | "unset" => Builtin.unset args
  | _ => wait r args

/-- Carries a builtin out and writes what it has to say. What is wrong with a builtin that is
not special only makes it fail. -/
def invoke (r : Runner) (tested special : Bool) (b : Builtin) (args : List Bytes) :
    Exec Unit := do
  let before := (← Exec.shell).builtin
  let name := args.headD []
  Exec.modifyShell fun s => { s with builtin := some name }
  let action : Exec Unit := do
    let outcome ← perform r tested b name args.tail
    match ← Exec.writeTo 1 outcome.output with
    | none => Exec.setStatus outcome.status
    | some _ =>
      Exec.complain (name ++ say ": I/O error")
      Exec.setStatus (outcome.status ||| 1)
  let stop ← Exec.caught action
  Exec.modifyShell fun s => { s with builtin := before }
  match stop with
  | none => pure ()
  | some .error => if special then throw .error
  | some other => throw other

/-- The functions that may be run inside of one another. -/
def depthBound : Nat := 1000

/-- Runs a function. -/
def call (r : Runner) (tested : Bool) (body : Node) (args : List Bytes) : Exec Unit := do
  let before ← Exec.shell
  if depthBound ≤ before.depth then
    Exec.fail (say s!"Maximum function recursion depth ({depthBound}) reached")
  Exec.modifyShell fun s => { s with
    arguments := args.tail, optionIndex := 1, optionOffset := none
    loops := 0, depth := s.depth + 1 }
  let stop ← Exec.caught (r tested body)
  Exec.modifyShell fun s => { s with
    arguments := before.arguments, optionIndex := before.optionIndex
    optionOffset := before.optionOffset, loops := before.loops, depth := before.depth }
  match stop with
  | none => pure ()
  | some .return => pure ()
  | some other => throw other

/-! ## Simple commands -/

/-- What is written in front of commands that are shown. -/
def traceMark (r : Runner) : Exec Bytes := do
  let mark := ((← Exec.shell).value? (say "PS4")).getD []
  let reader := Reader.inner (Reader.read nestingBound)
  match (Scan.quotedText reader).run (Source.ofBytes mark [] 0) with
  | .error e =>
    Exec.complain (say "Syntax error: " ++ e.message)
    return mark
  | .ok (w, _) =>
    Exec.modifyShell fun s => { s with marking := true }
    let expand : Exec Bytes := fun s =>
      match (Expansion.bytes (substitute r) { quoted := true } w).run s with
      | (.ok bytes, s) => (.ok bytes, s)
      | (.error .error, s) => (.ok mark, s)
      | (.error other, s) => (.error other, s)
    Exec.ensuring expand (Exec.modifyShell fun s => { s with marking := false })

/-- Shows a command before it is run. -/
def trace (r : Runner) (opening : Option Nat) (words : List Bytes) : Exec Unit := do
  let s ← Exec.shell
  if s.has 'x' && !s.marking then
    let text := (← traceMark r) ++ Bytes.join [' '] words ++ ['\n']
    match opening with
    | none => pure ()
    | some n =>
      match (← Exec.world).write n (Bytes.toArray text) with
      | .ok w => Exec.modifyWorld fun _ => w
      | .error _ => pure ()

/-- Expands an assignment and carries it out. Answers it as it is shown. -/
def assign (r : Runner) (kept exported : Bool) (w : Word) : Exec Bytes := do
  let text ← Expansion.bytes (substitute r) { assigns := true } w
  let name := text.takeWhile (· != '=')
  if kept then Exec.saveVariable name
  Exec.setVariable name (text.drop (name.length + 1))
  if kept || exported then
    Exec.modifyShell fun s =>
      s.put name ((s.find? name).map fun v => { v with exported := true })
  return text

/-- Runs what a command calls. -/
def runCalled (r : Runner) (tested : Bool) (c : Calling) : Exec Unit := do
  let found ← match c.found with
    | some (.builtin b) => pure (Found.builtin b)
    | _ => Builtin.lookUp c.functions c.folders (c.args.headD [])
  match found with
  | .builtin b => invoke r tested (c.special.getD false) b c.args
  | .function body => call r tested body c.args
  | .program path => Exec.setStatus (← inWaitedCopy r (execute r path c.args))
  | .nothing e =>
    Exec.complain (c.args.headD [] ++ say (": " ++ e.message))
    Exec.setStatus 127

/-- Runs a simple command. -/
def runSimple (r : Runner) (tested : Bool) (line : Nat) (assignments words : List Word)
    (redirections : List Redirection) : Exec Unit := do
  let out := substitute r
  Exec.modifyShell fun s => { s with errorLine := line, substituted := 0 }
  let c ← expandRest out (← resolve out .name {} words [])
  let isExec := match c.found with
    | some (.builtin b) => b.name == "exec"
    | _ => false
  let special := c.special.getD false
  let kept := c.found.isSome && !special
  let redirects ← redirections.mapM (Redirect.expand out)
  let before := (← Exec.shell).descriptors
  let action : Exec Unit := do
    match ← Exec.caught (Redirect.applyAll out redirects) with
    | some .error =>
      Exec.setStatus 2
      if special then throw .error
    | some other => throw other
    | none =>
      let assigned ← assignments.mapM (assign r kept (isExec && 1 < c.args.length))
      trace r (before.lookup 2) (assigned ++ c.front ++ c.args)
      if c.found.isNone then Exec.setStatus (← Exec.shell).substituted
      else runCalled r tested c
  let action := if kept then do
      Exec.modifyShell fun s => { s with saved := [] :: s.saved }
      Exec.ensuring action Exec.restoreSaved
    else action
  if isExec then action else Exec.ensuring action (Redirect.restore before redirects)

/-! ## Compound commands -/

/-- How a part of a loop has ended. -/
inductive Turn where
  | ended
  /-- What was left of it is left out. -/
  | skipped
  /-- The loop is left. -/
  | left
deriving DecidableEq, Repr

/-- Runs a part of a loop. -/
def turn (action : Exec Unit) : Exec Turn := do
  match ← Exec.caught action with
  | none => return .ended
  | some (.break n) => if n ≤ 1 then return .left else throw (.break (n - 1))
  | some (.continue n) => if n ≤ 1 then return .skipped else throw (.continue (n - 1))
  | some other => throw other

/-- The turns after which a loop counts as endless. -/
def turnBound : Nat := 100000

/-- Runs a loop, so many turns at most. The status is that of the last turn of its body. -/
def loop (r : Runner) (tested inverted : Bool) (test body : Node) : Nat → Nat → Exec Unit
  | 0, _ => throw .endless
  | n + 1, status => do
    match ← turn (r true test) with
    | .left => Exec.setStatus status
    | .skipped => loop r tested inverted test body n status
    | .ended =>
      if ((← Exec.shell).status == 0) != inverted then
        let t ← turn (r tested body)
        if t ≠ .left then loop r tested inverted test body n (← Exec.shell).status
      else Exec.setStatus status

/-- Runs the body of a loop for each of some values of a variable. -/
def loopOver (r : Runner) (tested : Bool) (name : Bytes) (body : Node) : List Bytes → Exec Unit
  | [] => return
  | value :: rest => do
    Exec.setVariable name value
    let t ← turn (r tested body)
    if t ≠ .left then loopOver r tested name body rest

/-- Runs an action inside of one more loop. -/
def insideLoop (action : Exec Unit) : Exec Unit := do
  let loops := (← Exec.shell).loops
  Exec.modifyShell fun s => { s with loops := loops + 1 }
  Exec.ensuring action (Exec.modifyShell fun s => { s with loops := loops })

/-- Whether one of some patterns matches a text. -/
def anyAdmits (out : Substitution) (subject : Bytes) : List Word → Exec Bool
  | [] => return false
  | w :: rest => do
    if (← Expansion.pattern out w).admits subject then return true
    anyAdmits out subject rest

/-- The first branch with a pattern that matches a text. -/
def chosenBranch (out : Substitution) (subject : Bytes) :
    List (List Word × Option Node) → Exec (Option Node)
  | [] => return none
  | (patterns, body) :: rest => do
    if ← anyAdmits out subject patterns then return body
    chosenBranch out subject rest

/-- Runs a command that writes into a pipe. One that runs forever ends at the latest when nobody
reads any more what it writes. -/
def intoPipe (sink : Nat) (action : Exec Unit) : Exec Unit := do
  match ← Exec.caught action with
  | none => pure ()
  | some .endless =>
    let w ← Exec.world
    let written := match (w.openings[sink]?).map Opening.target with
      | some (.pipe p) => (w.pipes[p]?).map Pipe.content
      | _ => none
    if written.all ByteArray.isEmpty then throw .endless
  | some other => throw other

/-- Runs the commands of a pipeline, each with the input that the one before has left. Answers
the status of the last one. -/
def stages (r : Runner) (tested : Bool) (start finish : Nat) (input : Option Nat) :
    List Node → Exec Nat
  | [] => return 0
  | n :: rest => do
    Builtin.remember n
    let ((source, sink), w) := (← Exec.world).addPipe .empty
    if !rest.isEmpty then Exec.modifyWorld fun _ => w
    Exec.modifyWorld fun w => { w with clock := start }
    let stage : Exec Nat := inWaitedCopy r do
      if let some i := input then Exec.modifyShell fun s => s.redirect 0 (some i)
      if !rest.isEmpty then Exec.modifyShell fun s => s.redirect 1 (some sink)
      r tested n
    if rest.isEmpty then Exec.setStatus (← stage)
    else
      intoPipe sink (discard stage)
      if let some o := w.openings[sink]? then drain r o.target
    let status := (← Exec.shell).status
    let finish := max finish (← Exec.world).clock
    Exec.modifyWorld fun w => { w with clock := finish }
    if rest.isEmpty then return status else stages r tested start finish (some source) rest

/-- Ends the shell if it ends at failures and the last command has failed unnoticed. -/
def checkFailure (tested : Bool) (action : Exec Unit) : Exec Unit := do
  let strict := (← Exec.shell).has 'e'
  action
  if strict && !tested && (← Exec.shell).status != 0 then throw .exit

/-- Runs an action with redirections, whose failure makes a status. Answers whether they were
carried out. -/
def redirecting (r : Runner) (redirections : List Redirection) (action : Exec Unit) :
    Exec Bool := do
  let out := substitute r
  let redirects ← redirections.mapM (Redirect.expand out)
  let before := (← Exec.shell).descriptors
  let whole : Exec Bool := do
    match ← Exec.caught (Redirect.applyAll out redirects) with
    | none =>
      action
      return true
    | some .error =>
      Exec.setStatus 2
      return false
    | some other => throw other
  Exec.ensuring whole (Redirect.restore before redirects)

/-- Runs a command with a runner for those inside of it. -/
def step (r : Runner) (tested : Bool) (n : Node) : Exec Unit := do
  let out := substitute r
  let atLine : Nat → Exec Unit := fun line =>
    Exec.modifyShell fun s => { s with errorLine := line }
  match n with
  | .simple line assignments words redirections =>
    checkFailure tested (runSimple r tested line assignments words redirections)
  | .pipeline commands =>
    checkFailure tested do
      let now := (← Exec.world).clock
      Exec.setStatus (← stages r tested now now none commands)
  | .redirected line body redirections =>
    atLine line
    let done ← redirecting r redirections (r tested body)
    if !done then checkFailure tested (pure ())
  | .subshell line body redirections =>
    checkFailure tested do
      atLine line
      let redirects ← redirections.mapM (Redirect.expand out)
      Exec.setStatus (← inWaitedCopy r do
        Redirect.applyAll out redirects
        r tested body)
  | .background line body redirections =>
    atLine line
    startJob body (← redirections.mapM (Redirect.expand out))
    Exec.setStatus 0
  | .sequence first second =>
    r tested first
    r tested second
  | .both first second =>
    r true first
    if (← Exec.shell).status = 0 then r tested second
  | .either first second =>
    r true first
    if (← Exec.shell).status ≠ 0 then r tested second
  | .negation body =>
    r true body
    Exec.setStatus (if (← Exec.shell).status = 0 then 1 else 0)
  | .choice test yes no =>
    r true test
    if (← Exec.shell).status = 0 then r tested yes
    else
      match no with
      | some n => r tested n
      | none => Exec.setStatus 0
  | .loop inverted test body => insideLoop (loop r tested inverted test body turnBound 0)
  | .each line name words body =>
    atLine line
    let values ← words.mapM (Expansion.arguments out)
    Exec.setStatus 0
    insideLoop (loopOver r tested name body values.flatten)
  | .select line subject branches =>
    atLine line
    let subject ← Expansion.bytes out { tilde := true } subject
    match ← chosenBranch out subject branches with
    | some body => r tested body
    | none => Exec.setStatus 0
  | .definition _ name body =>
    Exec.modifyShell fun s =>
      { s with functions := (name, body) :: s.functions.filter fun f => f.1 != name }
    Exec.setStatus 0

/-- Runs a command with fuel for the depth of what is inside of it. -/
def run : Nat → Runner
  | 0 => fun _ _ => throw .endless
  | n + 1 => fun tested command => do
    if !(← Exec.shell).has 'n' then
      answerSignals (run n)
      step (run n) tested command
      answerSignals (run n)

/-- The depth that commands may have inside of one another. -/
def runBound : Nat := 50000

end Dql.Shell
