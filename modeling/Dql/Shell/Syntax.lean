import Dql.Shell.Name

/-!
# The syntax of scripts

A script is a tree of commands, and a word is a list of parts: characters, quotation
marks, and what is replaced when the word is used. Words hold commands, whose output
replaces them, and commands hold words, so the two are defined together.

Quotation marks are kept in words, since what stands between them is not split when the
word is used, and a word of nothing but quotation marks is still a word.
-/

namespace Dql.Shell

/-- What a parameter is replaced by. -/
inductive Rule where
  /-- Its value. -/
  | value
  /-- The length of its value. -/
  | length
  /-- A word if it is not set, or else its value; `null` counts an empty value as not set. -/
  | otherwise (null : Bool)
  /-- A word if it is set, or else nothing. -/
  | instead (null : Bool)
  /-- Its value; if it is not set it gets that of a word first. -/
  | assign (null : Bool)
  /-- Its value; if it is not set the script ends with a word as the message. -/
  | demand (null : Bool)
  /-- Its value without what a pattern matches of it at its front or at its end. -/
  | trim (front longest : Bool)
  /-- Nothing that is known. -/
  | unknown
deriving DecidableEq, Repr

/-- Whether a parameter that is not set is an error where such errors are asked for. -/
def Rule.needsValue : Rule → Bool
  | .value | .length | .trim _ _ => true
  | _ => false

/-- How a redirection opens a file. -/
inductive OpenMode where
  | read
  | write
  /-- Writes also where files are protected from that. -/
  | overwrite
  | append
  | readWrite
deriving DecidableEq, Repr

mutual

/-- A part of a word. -/
inductive Part where
  | char (c : Char)
  /-- A character that stands for itself whatever it is. -/
  | escaped (c : Char)
  /-- Quotes begin or end. -/
  | quote
  | parameter (name : Bytes) (rule : Rule) (word : List Part)
  /-- The output of a command. -/
  | command (body : Option Node)
  /-- The value of an expression. -/
  | arithmetic (expression : List Part)

/-- What a descriptor becomes a copy of. -/
inductive CopySource where
  | descriptor (n : Nat)
  /-- The descriptor is closed. -/
  | nothing
  | word (parts : List Part)

/-- A redirection of a descriptor. -/
inductive Redirection where
  | file (descriptor : Nat) (mode : OpenMode) (name : List Part)
  | copy (descriptor : Nat) (source : CopySource)
  /-- A document that stands in the script, by its number. -/
  | document (descriptor : Nat) (number : Nat)

/-- A command. The lines are those on which commands start. -/
inductive Node where
  /-- A command with assignments in front of its words. -/
  | simple (line : Nat) (assignments words : List (List Part)) (redirections : List Redirection)
  /-- Commands each of which reads what the one before writes. -/
  | pipeline (stages : List Node)
  | redirected (line : Nat) (body : Node) (redirections : List Redirection)
  | subshell (line : Nat) (body : Node) (redirections : List Redirection)
  /-- A command that is not waited for. -/
  | background (line : Nat) (body : Node) (redirections : List Redirection)
  | sequence (first second : Node)
  /-- Runs the second command only if the first has succeeded. -/
  | both (first second : Node)
  /-- Runs the second command only if the first has failed. -/
  | either (first second : Node)
  | negation (body : Node)
  | choice (test : Node) (yes : Node) (no : Option Node)
  /-- Runs while a test succeeds or, inverted, while it fails. -/
  | loop (inverted : Bool) (test body : Node)
  | each (line : Nat) (name : Bytes) (words : List (List Part)) (body : Node)
  | select (line : Nat) (subject : List Part)
    (branches : List (List (List Part) × Option Node))
  | definition (line : Nat) (name : Bytes) (body : Node)

end

/-- A word. -/
abbrev Word := List Part

instance : Inhabited Part := ⟨.quote⟩

instance : Inhabited Node := ⟨.pipeline []⟩

/-- A document that stands in a script. -/
structure HereDocument where
  number : Nat
  text : Word

/-- The text of a word that holds no quotation marks and nothing to replace. -/
def plain? : Word → Option Bytes
  | [] => some []
  | .char c :: rest => (plain? rest).map (c :: ·)
  | _ :: _ => none

/-- The name in front of the equals sign if a word is an assignment. -/
def assigned? (w : Word) : Option Bytes :=
  let front := w.takeWhile fun p => match p with
    | .char c => isNameChar c
    | _ => false
  match plain? front, w.drop front.length with
  | some name, .char '=' :: _ => if isName name then some name else none
  | _, _ => none

end Dql.Shell
