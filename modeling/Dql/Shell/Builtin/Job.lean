import Dql.Shell.Builtin.Signal

/-!
# Builtins on jobs

A job is a command that is not waited for. Jobs have numbers, and the last one is the current
one. Without a terminal they cannot be moved to the front or to the back.
-/

namespace Dql.Shell.Builtin

/-- The status of a process that a signal has ended. -/
def signalStatus (signal : Nat) : Nat := 128 + signal

/-- How a job is doing. -/
def jobState (w : World) (process : Nat) : Bytes :=
  match w.ended.lookup process with
  | none => say "Running"
  | some 0 => say "Done"
  | some n =>
    match if 128 < n then Signal.descriptions.lookup (n - 128) else none with
    | some words => say words
    | none => say "Done(" ++ .ofNat n ++ [')']

/-- Jobs as they are listed, the last one first; `before` is the number of those in front, of
which one that has ended no longer counts. -/
def jobLines (w : World) (before : Nat) : List (Nat × Nat) → List Bytes
  | [] => []
  | (number, process) :: rest =>
    let mark := if before = 0 then '+' else if before = 1 then '-' else ' '
    let text := '[' :: Bytes.ofNat number ++ [']', ' ', mark, ' '] ++ jobState w process
    let before := if (w.ended.lookup process).isSome then before else before + 1
    line (text ++ List.replicate (33 - text.length) ' ') :: jobLines w before rest

/-- Lists jobs, and forgets those that have ended. -/
def jobs (args : List Bytes) : Exec Outcome := do
  let (options, named) ← options "lp" args
  let s ← Exec.shell
  let w ← Exec.world
  let processes ← named.mapM jobProcess
  let chosen := s.jobs.reverse.filter fun j => named.isEmpty || processes.contains j.2
  Exec.modifyShell fun s =>
    { s with jobs := s.jobs.filter fun j => !(chosen.contains j && (w.ended.lookup j.2).isSome) }
  let output := if options.any fun o => o.1 == 'p' then chosen.map fun j => line (.ofNat j.2)
    else jobLines w 0 chosen
  return { output := output.flatten }

/-- Moves a job, which cannot be done. -/
def moveJob (args : List Bytes) : Exec Outcome := do
  let (_, args) ← options "" args
  match args with
  | name :: _ =>
    let _ ← jobProcess name
    Exec.fail (say "job " ++ name ++ say " not created under job control")
  | [] =>
    if (← Exec.shell).jobs.isEmpty then Exec.fail (say "No current job")
    Exec.fail (say "job (null) not created under job control")

end Dql.Shell.Builtin
