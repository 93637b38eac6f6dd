/-!
# Joining texts

`join sep` writes the texts of a list one after the other with `sep` between
neighbours, and nowhere else: no separator stands before the first or after the
last. It is structural in the list, so a statement about a joined text goes by
induction on its parts.
-/

namespace Dql.Text

/-- The texts of a list with a separator between each two neighbours. -/
def join (sep : String) : List String → String
  | [] => ""
  | [s] => s
  | s :: t :: rest => s ++ sep ++ join sep (t :: rest)

@[simp] theorem join_nil (sep : String) : join sep [] = "" := rfl

@[simp] theorem join_singleton (sep s : String) : join sep [s] = s := rfl

@[simp] theorem join_cons_cons (sep s t : String) (rest : List String) :
    join sep (s :: t :: rest) = s ++ sep ++ join sep (t :: rest) := rfl

/-- A text, or nothing, in front of which something is written only if it is there. -/
def unlessEmpty (s : String) (f : String → String) : String :=
  if s.isEmpty then "" else f s

end Dql.Text
