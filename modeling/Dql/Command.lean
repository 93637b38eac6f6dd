import Dql.Path

/-!
# Commands

What the settings know of an external program: how to call it. It is known by the
last name in its path.
-/

namespace Dql

/-- A program and its arguments. -/
structure Command where
  program : String
  arguments : List String := []
deriving DecidableEq, Repr

/-- The name that a program is known by as a parser. -/
def Command.displayName (c : Command) : String :=
  (Path.fileName? c.program).getD "external parser"

end Dql
