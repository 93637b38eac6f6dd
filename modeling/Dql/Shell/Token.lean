import Dql.Shell.WordReader

/-!
# Reading tokens

A token is an operator, a redirection or a word. A digit right in front of a redirection
names the descriptor. A word that is not quoted may be reserved, or an alias, where that is
looked for.
-/

namespace Dql.Shell.Scan

/-- Passes over a comment. -/
def skipComment : Scan Unit := modify fun s =>
  { s with rest := s.rest.dropWhile fun symbol => match symbol with
    | .char '\n' => false
    | _ => true }

/-- Reads what follows the sign of a redirection that writes. -/
def outputKind : Scan RedirectionKind := do
  if ← nextIf '>' then return .file .append
  if ← nextIf '|' then return .file .overwrite
  if ← nextIf '&' then return .copy
  return .file .write

/-- Reads what follows the sign of a redirection that reads. -/
def inputKind : Scan RedirectionKind := do
  if ← nextIf '<' then return .document (← nextIf '-')
  if ← nextIf '&' then return .copy
  if ← nextIf '>' then return .file .readWrite
  return .file .read

/-- The descriptor in front of a redirection: none for a word that is not one. -/
def descriptorOf? (w : Word) (quoted : Bool) (otherwise : Nat) : Option Nat :=
  match quoted, w with
  | false, [] => some otherwise
  | false, [.char c] => if c.isDigit then some (digitValue c) else none
  | _, _ => none

/-- Reads a word, or a redirection. -/
def wordToken (inner : Inner) (c : Char) : Scan Token := do
  let (w, quoted, ending) ← wordFrom inner c
  match ending with
  | some '>' =>
    match descriptorOf? w quoted 1 with
    | some n =>
      return .redirection n (← outputKind)
    | none => pure ()
  | some '<' =>
    match descriptorOf? w quoted 0 with
    | some n => return .redirection n (← inputKind)
    | none => pure ()
  | _ => pure ()
  putBack ending
  return .word w quoted

/-- Reads a token behind blanks and comments, so many at most. -/
def rawToken (inner : Inner) : Nat → Scan Token
  | 0 => return .endOfFile
  | n + 1 => do
    match ← nextJoined with
    | none => return .endOfFile
    | some c =>
      if isWordBlank c then rawToken inner n
      else if c = '#' then
        skipComment
        rawToken inner n
      else if c = '\n' then
        countLine
        return .newline
      else if c = '&' then return if ← nextIf '&' then .and else .background
      else if c = '|' then return if ← nextIf '|' then .or else .pipe
      else if c = ';' then return if ← nextIf ';' then .endCase else .semicolon
      else if c = '(' then return .openParen
      else if c = ')' then return .closeParen
      else wordToken inner c

/-- The last token if it is to be read again, or the next one. -/
def anyToken (inner : Inner) : Scan Token := do
  let s ← get
  if s.again then
    set { s with again := false }
    return s.last
  rawToken inner ((← size) + 1)

/-- Passes over line breaks, so many at most, and reads the documents behind them. -/
def skipNewlines (inner : Inner) : Nat → Token → Scan Token
  | 0, t => return t
  | n + 1, t => do
    match t with
    | .newline =>
      documents inner
      look {}
      skipNewlines inner n (← anyToken inner)
    | t => return t

/-- The value of an alias that is not being read. -/
def aliasValue? (name : Bytes) : Scan (Option Bytes) := do
  let s ← get
  if s.active.contains name then return none
  return (s.aliases.find? fun a => a.1 == name).map (·.2)

/-- Puts the value of an alias in front of what follows. -/
def openAlias (name value : Bytes) : Scan Unit := modify fun s =>
  if value.isEmpty then s
  else { s with
    rest := value.map .char ++ .aliasEnd name (value.getLast?.any isWordBlank) :: s.rest
    active := name :: s.active }

/-- Reads a token by what is looked for, replacing so many aliases at most. -/
def tokenWithin (inner : Inner) : Nat → Lookout → Scan Token
  | 0, _ => return .endOfFile
  | n + 1, wanted => do
    let first ← anyToken inner
    let t ← if wanted.newlines then skipNewlines inner ((← size) + 1) first else pure first
    let left := (← get).lookout
    look {}
    match t with
    | .word w false =>
      match plain? w with
      | none => return t
      | some text =>
        if wanted.keywords || left.keywords then
          if let some k := Keyword.ofBytes? text then return .keyword k
        if wanted.aliases || left.aliases then
          if let some value ← aliasValue? text then
            openAlias text value
            return ← tokenWithin inner n { wanted with
              keywords := wanted.keywords || left.keywords
              aliases := true }
        return t
    | t => return t

/-- Reads a token. -/
def token (inner : Inner) : Scan Token := do
  let s ← get
  let t ← tokenWithin inner (s.rest.length + s.aliases.length * 1000 + 2) s.lookout
  modify fun s => { s with last := t }
  return t

end Dql.Shell.Scan
