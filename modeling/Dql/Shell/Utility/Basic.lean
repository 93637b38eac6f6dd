import Dql.Shell.State

/-!
# What programs say

A program complains under the name that it was called by, and writes what it has to say when it
is done.
-/

namespace Dql.Shell.Utility

/-- Complains under the name of a program. -/
def complain (program message : Bytes) : Exec Unit := do
  let _ ← Exec.writeTo 2 (program ++ say ": " ++ message ++ ['\n'])

/-- Complains of arguments, and says where to find help. -/
def refuse (program message : Bytes) : Exec Nat := do
  complain program message
  let _ ← Exec.writeTo 2 (say "Try '" ++ program ++ say " --help' for more information.\n")
  return 1

/-- Writes output at the end of a program. -/
def finish (program output : Bytes) (status : Nat) : Exec Nat := do
  match ← Exec.writeTo 1 output with
  | none => return status
  | some e =>
    complain program (say ("write error: " ++ e.message))
    return 1

end Dql.Shell.Utility
