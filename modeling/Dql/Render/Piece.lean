import Dql.Query.Basic
import Dql.Text.Join
import Dql.Text.Layout
import Dql.Text.Quoted
import Dql.Uri.Basic

/-!
# The pieces of query text

Query text is put together from pieces: the words and signs of the language, terms, and
predicates that are applied to terms. A term is a string of the tree, as it is or quoted,
an identifier, a name, or the values of names. What is written decides which pieces stand
where; how a piece looks is decided here and nowhere else (`Piece.text`). The name of a
predicate stands in angle brackets if it is a URI, and what counts as one is a parameter.

The word that reads values is part of a term. No word of the language that stands by itself
and no sign holds the letter that it starts with, and none holds a quote, a slash or a line
feed (`Mark`): whatever of these a text holds comes from the tree.
-/

namespace Dql

/-- The characters of the words and signs of the language, the word `val` left out. -/
def Mark.admits (c : Char) : Bool := c != '"' && c != '/' && c != '\n' && c != 'v'

/-- Whether a word has no other characters is seen by computing it. -/
theorem Mark.plain_of_cond (s : String) (h : cond (s.toList.all Mark.admits) True False) :
    s.toList.all Mark.admits = true := by
  cases hall : s.toList.all Mark.admits with
  | true => rfl
  | false =>
    rw [hall] at h
    exact h.elim

/-- A word or a sign of the language. -/
structure Mark where
  text : String
  plain : text.toList.all Mark.admits = true

/-- Where the name of a predicate stands. -/
inductive Piece.Place where
  /-- What a node, a call or a condition is about. -/
  | subject
  /-- In front of the arguments of a function. -/
  | applied
  /-- What results are ordered by. -/
  | ordering
  /-- What results are grouped by. -/
  | grouping
deriving DecidableEq

/-- The name of a variable or of a predicate. -/
inductive Name where
  | reference (name : String)
  /-- A variable that results are ordered by. -/
  | ordered (name : String) (kind : VariableKind)
  | predicate (place : Piece.Place) (name : String)

/-- What stands for itself in query text. -/
inductive Term where
  /-- A string of the tree as it is. -/
  | own (s : String)
  /-- A string of the tree in quotes. -/
  | literal (s : String)
  | identifier (uid : Uid)
  | name (n : Name)
  /-- The values of what is named. -/
  | values (ns : List Name)

/-- A piece of query text. -/
inductive Piece where
  | mark (m : Mark)
  | term (t : Term)
  /-- A predicate in front of its arguments. -/
  | applied (head : Name) (arguments : List Term)
  | lineBreak

/-! ## Texts -/

/-- The name of a predicate in angle brackets if it is a URI. -/
def bracketed (isUri : String → Bool) (name : String) : String :=
  if isUri name then "<" ++ name ++ ">" else name

/-- A variable of a kind by name. One of nodes whose name is a number is written
as an identifier. -/
def Render.variableOf (name : String) (kind : VariableKind) : String :=
  match kind, Uid.ofDecimal? name with
  | .nodes, some uid => uid.format
  | _, _ => name

/-- The text of a name. That of a predicate that says what something is about stands in
angle brackets if it is a URI; in other places it is written as it is. -/
def Name.text (isUri : String → Bool) : Name → String
  | reference name => name
  | ordered name kind => Render.variableOf name kind
  | predicate .subject name => bracketed isUri name
  | predicate _ name => name

/-- The text of a term. -/
def Term.text (isUri : String → Bool) : Term → String
  | own s => s
  | literal s => Text.quote s
  | identifier uid => uid.format
  | name n => n.text isUri
  | values ns => "val(" ++ Text.join ", " (ns.map (Name.text isUri)) ++ ")"

/-- The text of a piece. -/
def Piece.text (isUri : String → Bool) : Piece → String
  | mark m => m.text
  | term t => t.text isUri
  | applied head arguments =>
    head.text isUri ++ "(" ++ Text.join ", " (arguments.map (Term.text isUri)) ++ ")"
  | lineBreak => "\n"

/-- Pieces one after the other. -/
abbrev Phrase := List Piece

namespace Phrase

/-- The text of a phrase. -/
def text (isUri : String → Bool) : Phrase → String
  | [] => ""
  | p :: rest => p.text isUri ++ text isUri rest

/-- The text of a phrase in which absolute URIs count as such. -/
def written (t : Phrase) : String := t.text Uri.isAbsolute

/-! ## Phrases of one piece -/

/-- A word or a sign of the language. -/
def mark (s : String) (plain : s.toList.all Mark.admits = true := by
    exact Mark.plain_of_cond _ trivial) : Phrase :=
  [.mark ⟨s, plain⟩]

/-- A string of the tree as it is. -/
def own (s : String) : Phrase := [.term (.own s)]

/-- The name of a predicate. -/
def predicate (place : Piece.Place) (name : String) : Phrase :=
  [.term (.name (.predicate place name))]

/-- The values of what is named. -/
def values (ns : List Name) : Phrase := [.term (.values ns)]

/-! ## Phrases put together -/

/-- Phrases with a separator between each two neighbours. -/
def joined (sep : Phrase) : List Phrase → Phrase
  | [] => []
  | [t] => t
  | t :: u :: rest => t ++ sep ++ joined sep (u :: rest)

/-- Phrases with commas between them. -/
def listed (ts : List Phrase) : Phrase := joined (mark ", ") ts

/-- Terms with commas between them. -/
def terms (ts : List Term) : Phrase := listed (ts.map fun t => [.term t])

/-- A call of a function. -/
def application (function inside : Phrase) : Phrase :=
  function ++ mark "(" ++ inside ++ mark ")"

/-- A phrase about a string, or nothing if the string is empty. -/
def unlessEmpty (s : String) (f : String → Phrase) : Phrase :=
  if s.isEmpty then [] else f s

/-- A name and a colon in front of what it stands for; nothing without a name. -/
def named (name : String) : Phrase := unlessEmpty name fun a => own (a ++ ":") ++ mark " "

/-- A key and its value. -/
def entry (key value : String) : Phrase := own (key ++ ":") ++ mark " " ++ own value

/-- The keyword of an ordering and its colon are plain. -/
theorem plain_direction (descending : Bool) :
    (directionWord descending ++ ": ").toList.all Mark.admits = true := by
  cases descending <;> decide

/-- The keyword of an ordering and its colon. -/
def direction (descending : Bool) : Phrase :=
  mark (directionWord descending ++ ": ") (plain_direction descending)

/-- Indentation is plain. -/
theorem plain_indent (depth : Nat) : (Text.indent depth).toList.all Mark.admits = true := by
  unfold Text.indent
  rw [String.toList_ofList, List.all_eq_true]
  intro c hc
  rw [List.eq_of_mem_replicate hc]
  decide

/-- The indentation of a line. -/
def indent (depth : Nat) : Phrase := mark (Text.indent depth) (plain_indent depth)

end Phrase

end Dql
