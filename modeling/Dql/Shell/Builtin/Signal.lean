import Dql.Shell.Builtin.Basic

/-!
# Signals

A signal is a number with a name. A process that gets one does what its trap for it says,
or nothing if that is empty; without a trap most signals end it. `trap` sets traps, also
one for the end of the shell, whose number is zero, and `kill` sends signals.
-/

namespace Dql.Shell

namespace Signal

/-- The names of the signals with a number below 32, by number. -/
def names : List String := [
  "EXIT", "HUP", "INT", "QUIT", "ILL", "TRAP", "ABRT", "BUS", "FPE", "KILL", "USR1", "SEGV",
  "USR2", "PIPE", "ALRM", "TERM", "16", "CHLD", "CONT", "STOP", "TSTP", "TTIN", "TTOU", "URG",
  "XCPU", "XFSZ", "VTALRM", "PROF", "WINCH", "IO", "PWR", "SYS", "32", "33", "RTMIN"] ++
  (List.range 15).map (fun n => s!"RTMIN+{n + 1}") ++
  (List.range 14).map (fun n => s!"RTMAX-{14 - n}") ++ ["RTMAX"]

/-- What is written when a program was ended by a signal, for those with a word of their own. -/
def descriptions : List (Nat × String) := [
  (1, "Hangup"), (3, "Quit"), (4, "Illegal instruction"), (5, "Trace/breakpoint trap"),
  (6, "Aborted"), (7, "Bus error"), (8, "Floating point exception"), (9, "Killed"),
  (10, "User defined signal 1"), (11, "Segmentation fault"), (12, "User defined signal 2"),
  (14, "Alarm clock"), (15, "Terminated"), (16, "Stack fault"), (24, "CPU time limit exceeded"),
  (25, "File size limit exceeded"), (26, "Virtual timer expired"),
  (27, "Profiling timer expired"), (29, "I/O possible"), (30, "Power failure"),
  (31, "Bad system call")]

/-- The signals that end no process. -/
def harmless : List Nat := [0, 17, 18, 23, 28]

/-- The signals that stop a process until it gets another one. -/
def stopping : List Nat := [19, 20, 21, 22]

/-- The name of a signal. -/
def name (n : Nat) : Bytes := say ((names[n]?).getD "")

/-- The number that bytes write, if a signal has it. -/
def ofNumber? (b : Bytes) : Option Nat := (number? b).filter fun n => n < names.length

/-- The signal of a number or a name, the letters of which may be of either case; names may be
those of signals from a least one on. -/
def ofBytes? (least : Nat) (b : Bytes) : Option Nat :=
  (ofNumber? b).orElse fun _ =>
    (names.findIdx? fun n => n.toList == b.map Char.toUpper).filter (least ≤ ·)

end Signal

namespace Builtin

/-! ## Traps -/

/-- A shell with a trap for a signal, or without one. -/
def setTrap (signal : Nat) (action : Option Bytes) (s : Interpreter) : Interpreter :=
  let others := s.traps.filter fun t => t.1 != signal
  { s with traps := match action with
    | some action => (signal, action) :: others
    | none => others }

/-- Sets traps for signals one after the other. -/
def trapSignals (action : Option Bytes) : List Bytes → Exec Outcome
  | [] => return {}
  | name :: rest => do
    match Signal.ofBytes? 0 name with
    | none =>
      note (say "trap: " ++ name ++ say ": bad trap")
      return { status := 1 }
    | some n =>
      Exec.modifyShell (setTrap n action)
      trapSignals action rest

/-- Sets traps, or lists them. -/
def trap (args : List Bytes) : Exec Outcome := do
  let (_, args) ← options "" args
  match args with
  | [] =>
    let traps := (← Exec.shell).traps.mergeSort fun a b => a.1 ≤ b.1
    let lines := traps.map fun t =>
      line (say "trap -- " ++ Quotation.shown t.2 ++ ' ' :: Signal.name t.1)
    return { output := lines.flatten }
  | [_] => trapSignals none args
  | action :: names =>
    if (Signal.ofNumber? action).isSome then trapSignals none args
    else trapSignals (if action = ['-'] then none else some action) names

/-! ## Sending signals -/

/-- Sends a signal to a process, and answers whether there is one. -/
def send (signal process : Nat) : Exec Bool := do
  let w ← Exec.world
  let s ← Exec.shell
  let post : Exec Unit := Exec.modifyWorld fun w =>
    { w with signals := w.signals ++ [(process, signal)] }
  if process = s.self || process = s.process then
    if Signal.stopping.contains signal then throw .endless
    post
    if process = s.self && signal = 9 then throw (.killed 9)
    if process = s.self && !(s.traps.any fun t => t.1 == signal) &&
        !Signal.harmless.contains signal then throw (.killed signal)
    return true
  if !w.pending.any fun j => j.process == process then return false
  if !Signal.harmless.contains signal then
    Exec.modifyWorld fun w => { w with pending := w.pending.map (stopJob w.clock) }
  return true
where
  /-- A job that a signal ends if it is the one which is meant. -/
  stopJob (now : Nat) (j : Job) : Job :=
    if j.process = process ∧ j.stop.isNone then { j with stop := some (now, signal) } else j

/-- The usage of `kill`. -/
def killUsage : Bytes :=
  say ("Usage: kill [-s sigspec | -signum | -sigspec] [pid | job]... or\n" ++
    "kill -l [exitstatus]")

/-- The process of a job, by what a percent sign and a number say. -/
def jobProcess (argument : Bytes) : Exec Nat := do
  let s ← Exec.shell
  let refuse : Exec Nat := Exec.fail (say "No such job: " ++ argument)
  match argument with
  | '%' :: rest =>
    if rest.isEmpty || rest == ['%'] || rest == ['+'] then
      match s.jobs.getLast? with
      | some j => return j.2
      | none => refuse
    else
      match (number? rest).bind fun n => s.jobs.lookup n with
      | some process => return process
      | none => refuse
  | _ => refuse

/-- Sends a signal to processes one after the other. -/
def sendAll (signal status : Nat) : List Bytes → Exec Outcome
  | [] => return { status := status }
  | target :: rest => do
    let reached ← match target with
      | '%' :: _ =>
        let _ ← jobProcess target
        pure false
      | '-' :: group =>
        let _ ← Exec.number group
        pure false
      | _ => send signal (← Exec.number target)
    if !reached then Exec.complain (line (say "No such process"))
    sendAll signal (if reached then status else 1) rest

/-- Lists signals. -/
def listSignals : List Bytes → Exec Outcome
  | [] => return { output := line ['0'] ++ Signal.names.tail.flatMap fun n => line (say n) }
  | argument :: _ => do
    let n ← Exec.number argument
    let n := if 128 < n then n - 128 else n
    if 0 < n ∧ n < Signal.names.length then return { output := line (Signal.name n) }
    Exec.fail (say "invalid signal number or exit status: " ++ argument)

/-- Sends a signal, or lists them. -/
def kill (args : List Bytes) : Exec Outcome := do
  let usage : Exec Outcome := Exec.fail killUsage
  match args with
  | [] => usage
  | first :: rest =>
    let direct := match first with
      | '-' :: name => Signal.ofBytes? 1 name
      | _ => none
    match direct with
    | some signal => if rest.isEmpty then usage else sendAll signal 0 rest
    | none =>
      let (options, rest) ← if first.head? = some '-' then options "ls:" args else pure ([], args)
      let signals ← options.filterMapM fun o => do
        if o.1 = 'l' then return none
        match Signal.ofBytes? 1 o.2 with
        | some n => return some n
        | none => Exec.fail (say "invalid signal number or name: " ++ o.2)
      let list := options.any fun o => o.1 == 'l'
      if list then
        if signals.isEmpty then listSignals rest else usage
      else if rest.isEmpty then usage
      else sendAll (signals.getLast?.getD 15) 0 rest

end Builtin

end Dql.Shell
