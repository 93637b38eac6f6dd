import Dql.Shell.Syntax

/-!
# Sources of scripts

A script is read character by character, with the number of the line. A backslash in
front of a line break joins two lines wherever it is not quoted. The name of an alias
is replaced by its value in front of what follows; while that is being read the alias is
not replaced again.

What is read is tokens: words, redirections, operators, and the words that are reserved
where a command may start. A token can be put back once.
-/

namespace Dql.Shell

/-- The words that are reserved where a command may start. -/
inductive Keyword where
  | not
  | caseOf
  | doWord
  | done
  | elseIf
  | elseWord
  | esac
  | fi
  | forEach
  | ifWord
  | inWord
  | thenWord
  | untilWord
  | whileWord
  | openBrace
  | closeBrace
deriving DecidableEq, Repr

/-- How the reserved words are written. -/
def keywords : List (String × Keyword) := [
  ("!", .not), ("case", .caseOf), ("do", .doWord), ("done", .done), ("elif", .elseIf),
  ("else", .elseWord), ("esac", .esac), ("fi", .fi), ("for", .forEach), ("if", .ifWord),
  ("in", .inWord), ("then", .thenWord), ("until", .untilWord), ("while", .whileWord),
  ("\x7b", .openBrace), ("\x7d", .closeBrace)]

/-- The reserved word that bytes write. -/
def Keyword.ofBytes? (b : Bytes) : Option Keyword :=
  (keywords.find? fun k => k.1.toList == b).map (·.2)

/-- The spelling of a reserved word. -/
def Keyword.spelling (k : Keyword) : String :=
  ((keywords.find? fun e => e.2 == k).map (·.1)).getD ""

/-- What a redirection does, before its target is read. -/
inductive RedirectionKind where
  | file (mode : OpenMode)
  | copy
  /-- The target ends a document; `stripped` says whether tabs in front of its lines are
  left out. -/
  | document (stripped : Bool)
deriving DecidableEq, Repr

/-- A token of a script. -/
inductive Token where
  | endOfFile
  | newline
  | semicolon
  | background
  | and
  | or
  | pipe
  | openParen
  | closeParen
  | endCase
  | redirection (descriptor : Nat) (kind : RedirectionKind)
  /-- A word, and whether a part of it is quoted. -/
  | word (w : Word) (quoted : Bool)
  | keyword (k : Keyword)

namespace Token

/-- How a complaint names a token. -/
def name : Token → String
  | endOfFile => "end of file"
  | newline => "newline"
  | semicolon => "\";\""
  | background => "\"&\""
  | and => "\"&&\""
  | or => "\"||\""
  | pipe => "\"|\""
  | openParen => "\"(\""
  | closeParen => "\")\""
  | endCase => "\";;\""
  | redirection _ _ => "redirection"
  | word _ _ => "word"
  | keyword k => "\"" ++ k.spelling ++ "\""

end Token

/-- Why a script cannot be read, and the line on which that shows. -/
structure SyntaxError where
  line : Nat
  message : Bytes
deriving DecidableEq, Repr

/-- A character of a source, or the end of what an alias was replaced by. -/
inductive Symbol where
  | char (c : Char)
  /-- The end of an alias; `blank` says whether its value ends in a blank, which makes the
  next word an alias too. -/
  | aliasEnd (name : Bytes) (blank : Bool)

/-- What is looked for in the next token. -/
structure Lookout where
  /-- Line breaks are passed over. -/
  newlines : Bool := false
  keywords : Bool := false
  aliases : Bool := false
  /-- The next word ends a document, so that nothing in it is replaced. -/
  mark : Bool := false
deriving DecidableEq, Repr

/-- A document that has been announced and not been read yet. -/
structure Announcement where
  number : Nat
  mark : Bytes
  stripped : Bool
  /-- Whether nothing in the document is replaced. -/
  literal : Bool

/-- A source that is being read. -/
structure Source where
  rest : List Symbol
  line : Nat := 1
  /-- The aliases that are known. -/
  aliases : List (Bytes × Bytes) := []
  /-- The aliases that are being read. -/
  active : List Bytes := []
  lookout : Lookout := {}
  /-- The last token. -/
  last : Token := .newline
  /-- Whether the last token is to be read again. -/
  again : Bool := false
  announced : List Announcement := []
  documents : List HereDocument := []
  /-- The number of the next document. -/
  nextDocument : Nat := 0

/-- A source of bytes. -/
def Source.ofBytes (script : Bytes) (aliases : List (Bytes × Bytes)) (nextDocument : Nat) :
    Source where
  rest := script.map .char
  aliases := aliases
  nextDocument := nextDocument

/-- A way of reading from a source. -/
abbrev Scan := StateT Source (Except SyntaxError)

namespace Scan

/-- Gives up. -/
def fail {α : Type} (message : String) : Scan α := do
  throw ⟨(← get).line, say message⟩

/-- Gives up because of the last token, instead of which another may have been expected. -/
def unexpected {α : Type} (expected : Option String) : Scan α := do
  let complaint := (← get).last.name ++ " unexpected"
  match expected with
  | none => fail complaint
  | some e => fail (complaint ++ " (expecting " ++ e ++ ")")

/-- The next character of symbols, with the ends of aliases in front of it. -/
def splitEnds : List Symbol → List (Bytes × Bool) × Option Char × List Symbol
  | [] => ([], none, [])
  | .char c :: rest => ([], some c, rest)
  | .aliasEnd name blank :: rest =>
    let (ends, c, rest) := splitEnds rest
    ((name, blank) :: ends, c, rest)

/-- The next character; none at the end. -/
def next : Scan (Option Char) := fun s =>
  match s.rest with
  | .char c :: rest => .ok (some c, { s with rest := rest })
  | symbols =>
    let (ends, c, rest) := splitEnds symbols
    .ok (c, { s with
      rest := rest
      active := s.active.filter fun name => !ends.any fun e => e.1 == name
      lookout := { s.lookout with aliases := s.lookout.aliases || ends.any (·.2) } })

/-- Puts a character back. -/
def putBack (c : Option Char) : Scan Unit :=
  match c with
  | some c => modify fun s => { s with rest := .char c :: s.rest }
  | none => pure ()

/-- Counts a line break. -/
def countLine : Scan Unit := modify fun s => { s with line := s.line + 1 }

/-- Symbols behind line breaks that follow backslashes, and the number of these. -/
def dropJoins : List Symbol → Nat × List Symbol
  | .char '\\' :: .char '\n' :: rest => ((dropJoins rest).1 + 1, (dropJoins rest).2)
  | rest => (0, rest)

/-- Passes over line breaks behind backslashes. -/
def joinLines : Scan Unit := modify fun s =>
  { s with rest := (dropJoins s.rest).2, line := s.line + (dropJoins s.rest).1 }

/-- The next character, lines joined; none at the end. -/
def nextJoined : Scan (Option Char) := do
  joinLines
  next

/-- The next character if it is a given one. -/
def nextIf (c : Char) : Scan Bool := do
  match ← nextJoined with
  | some d =>
    if d = c then return true
    putBack (some d)
    return false
  | none => return false

/-- Reads a token again. -/
def putTokenBack : Scan Unit := modify fun s => { s with again := true }

/-- Says what to look for in the next token. -/
def look (l : Lookout) : Scan Unit := modify fun s => { s with lookout := l }

/-- Where a command may start. -/
def atCommand : Lookout := { keywords := true, aliases := true }

/-- Where a command may start on a later line. -/
def atLaterCommand : Lookout := { newlines := true, keywords := true, aliases := true }

end Scan

end Dql.Shell
