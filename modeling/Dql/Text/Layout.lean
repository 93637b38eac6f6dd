import Dql.Text.Blank

/-!
# Layout of query text

Query text is laid out one clause a line, four spaces deeper for each level of
nesting. `normalize` brings any text to the normal layout: lines that hold only
blanks are dropped, and behind a line's indentation every run of blanks becomes
a single space. Two kinds of token are copied as they are, since blanks inside
them mean something: a double-quoted literal, and a regular expression between
slashes that opens an argument, i.e. follows `(` or `,`.

A line is read as a list of tokens (`Token.scan`), each token is squeezed
(`Token.squeeze`), and the tokens are written again (`Token.text`). The scan
loses nothing: the tokens' texts, one after the other, are the line.
-/

namespace Dql.Text

/-- The spaces in front of a line at a nesting depth, four a level. -/
def indent (level : Nat) : String := String.ofList (List.replicate (4 * level) ' ')

/-- The lines of a text. A line ends at a line feed, and one carriage return in
front of it belongs to the line end. What follows the last line feed is a line if
it is not empty. -/
def lines : List Char → List (List Char)
  | [] => []
  | '\r' :: '\n' :: rest => [] :: lines rest
  | '\n' :: rest => [] :: lines rest
  | c :: rest =>
    match lines rest with
    | [] => [[c]]
    | line :: more => (c :: line) :: more

/-- Splits behind the first `close` that no backslash escapes. A backslash takes
the character behind it along, whatever it is. -/
def splitLiteral (close : Char) : List Char → Option (List Char × List Char)
  | [] => none
  | ['\\'] => none
  | '\\' :: c :: rest => (splitLiteral close rest).map fun p => ('\\' :: c :: p.1, p.2)
  | c :: rest =>
    if c = close then some ([c], rest)
    else (splitLiteral close rest).map fun p => (c :: p.1, p.2)

/-- Nothing is lost by splitting a literal off. -/
theorem splitLiteral_append {close : Char} {cs : List Char} {p : List Char × List Char}
    (h : splitLiteral close cs = some p) : p.1 ++ p.2 = cs := by
  fun_induction splitLiteral close cs generalizing p with
  | case1 => simp at h
  | case2 => simp at h
  | case3 c rest ih =>
    obtain ⟨q, hq, rfl⟩ := Option.map_eq_some_iff.1 h
    simp [ih hq]
  | case4 rest =>
    simp only [Option.some.injEq] at h
    subst h; rfl
  | case5 c rest _ _ hc ih =>
    obtain ⟨q, hq, rfl⟩ := Option.map_eq_some_iff.1 h
    simp [ih hq]

/-- A piece of a line. -/
inductive Token where
  /-- A quoted literal; `body` starts behind the opening quote and ends with the closing one. -/
  | quoted (body : List Char)
  /-- A regular expression: the bracket or comma in front, the blanks up to the
  slash, and all from behind that slash to the closing one. -/
  | pattern (opener : Char) (gap body : List Char)
  /-- A run of blanks. -/
  | blanks (run : List Char)
  /-- Any other character. -/
  | char (c : Char)
deriving DecidableEq, Repr

namespace Token

/-- The characters of a token. -/
def text : Token → List Char
  | quoted body => '"' :: body
  | pattern opener gap body => opener :: gap ++ '/' :: body
  | blanks run => run
  | char c => [c]

/-- The token with its blanks reduced to one space: a run of blanks, and the gap
between a bracket or comma and the regular expression behind it. -/
def squeeze : Token → Token
  | pattern opener gap body => pattern opener (if gap.isEmpty then [] else [' ']) body
  | blanks _ => blanks [' ']
  | t => t

/-- The token that a line starts with, and the rest of the line. -/
def next (c : Char) (rest : List Char) : Token × List Char :=
  if c = '"' then
    match splitLiteral '"' rest with
    | some (body, rest') => (quoted body, rest')
    | none => (char c, rest)
  else if c = '(' ∨ c = ',' then
    match rest.dropWhile isBlank with
    | '/' :: more =>
      match splitLiteral '/' more with
      | some (body, rest') => (pattern c (rest.takeWhile isBlank) body, rest')
      | none => (char c, rest)
    | _ => (char c, rest)
  else if isBlank c then (blanks (c :: rest.takeWhile isBlank), rest.dropWhile isBlank)
  else (char c, rest)

/-- The first token and the rest are the line again. -/
theorem next_append (c : Char) (rest : List Char) :
    (next c rest).1.text ++ (next c rest).2 = c :: rest := by
  unfold next
  split
  · next hc =>
    subst hc
    split
    · next body rest' h => simpa [text] using splitLiteral_append h
    · simp [text]
  · split
    · split
      · next more hm =>
        split
        · next body rest' h =>
          have h1 := splitLiteral_append h
          have h2 := List.takeWhile_append_dropWhile (p := isBlank) (l := rest)
          simp only [text]
          simp only at h1
          rw [hm, ← h1] at h2
          simp [h2]
        · simp [text]
      · simp [text]
    · split
      · simp [text]
      · simp [text]

/-- A token has at least one character. -/
theorem text_next_ne_nil (c : Char) (rest : List Char) : (next c rest).1.text ≠ [] := by
  unfold next
  split
  · split <;> simp [text]
  · split
    · split
      · split <;> simp [text]
      · simp [text]
    · split <;> simp [text]

/-- Behind the first token there is less left. -/
theorem length_next_lt (c : Char) (rest : List Char) :
    (next c rest).2.length < (c :: rest).length := by
  have h := congrArg List.length (next_append c rest)
  have hpos := List.length_pos_iff.2 (text_next_ne_nil c rest)
  rw [List.length_append] at h
  omega

/-- The tokens of a line: at each place a literal if one starts and ends there,
else a run of blanks, else a single character. -/
def scan : List Char → List Token
  | [] => []
  | c :: rest => (next c rest).1 :: scan (next c rest).2
termination_by cs => cs.length
decreasing_by exact length_next_lt c rest

/-- The tokens' texts are the line: scanning loses nothing. -/
theorem flatMap_text_scan (cs : List Char) : (scan cs).flatMap text = cs := by
  fun_induction scan cs with
  | case1 => rfl
  | case2 c rest ih => rw [List.flatMap_cons, ih, next_append]

end Token

/-- A line with every run of blanks outside literals reduced to one space. -/
def squeeze (cs : List Char) : List Char := (Token.scan cs).flatMap fun t => t.squeeze.text

/-- Whether a character may stand in a line's indentation. -/
def isIndent (c : Char) : Bool := c == ' ' || c == '\t'

/-- A line in normal layout: its indentation as it is, the rest squeezed. -/
def normalizeLine (line : List Char) : List Char :=
  line.takeWhile isIndent ++ squeeze (line.dropWhile isIndent)

/-- Lines written one below the other, with a line feed between two of them. -/
def unlines : List (List Char) → List Char
  | [] => []
  | [line] => line
  | line :: next :: rest => line ++ '\n' :: unlines (next :: rest)

/-- A text in normal layout, on its characters. -/
def normalizeChars (cs : List Char) : List Char :=
  unlines (((lines cs).filter fun line => !line.all isBlank).map normalizeLine)

/-- A text in normal layout: blank lines dropped, blanks outside literals and
behind the indentation reduced to single spaces. -/
def normalize (s : String) : String := String.ofList (normalizeChars s.toList)

end Dql.Text
