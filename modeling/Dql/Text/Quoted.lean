/-!
# Quoted literals

A literal is written between double quotes. A backslash and a quote inside it
are written behind a backslash, and so are the line feed, the carriage return
and the tab, by letter: a literal therefore never spans two lines and holds no
run of blanks that a layout pass could change. `unescape` reads the inside of a
literal back (`unescape_escape`).
-/

namespace Dql.Text

/-- How one character is written inside a quoted literal. -/
def escapeChar (c : Char) : List Char :=
  if c = '\\' then ['\\', '\\']
  else if c = '"' then ['\\', '"']
  else if c = '\n' then ['\\', 'n']
  else if c = '\r' then ['\\', 'r']
  else if c = '\t' then ['\\', 't']
  else [c]

/-- The inside of the literal for a text. -/
def escape (cs : List Char) : List Char := cs.flatMap escapeChar

/-- Reads the inside of a literal: each escape stands for one character. -/
def unescape : List Char → List Char
  | '\\' :: c :: rest =>
    (if c = 'n' then '\n' else if c = 'r' then '\r' else if c = 't' then '\t' else c) ::
      unescape rest
  | c :: rest => c :: unescape rest
  | [] => []

theorem unescape_escapeChar_append (c : Char) (rest : List Char) :
    unescape (escapeChar c ++ rest) = c :: unescape rest := by
  unfold escapeChar
  split
  · next h => subst h; rfl
  · split
    · next h => subst h; rfl
    · split
      · next h => subst h; rfl
      · split
        · next h => subst h; rfl
        · split
          · next h => subst h; rfl
          · next h _ _ _ _ => simp [unescape, h]

/-- Reading the inside of a literal gives the text back. -/
theorem unescape_escape (cs : List Char) : unescape (escape cs) = cs := by
  induction cs with
  | nil => rfl
  | cons c rest ih =>
    rw [escape, List.flatMap_cons, unescape_escapeChar_append]
    exact congrArg _ ih

/-- The quoted literal for a text. -/
def quote (s : String) : String := "\"" ++ String.ofList (escape s.toList) ++ "\""

end Dql.Text
