import Dql.Shell.Token

/-!
# The grammar of scripts

A script is read one complete command at a time, up to the end of a line: a list of
pipelines with operators between them. A command is simple, or starts with a reserved word
or a parenthesis. Lists, pipelines and simple commands are read in loops; only commands
inside of commands and of words recurse, and each function takes the reader of these as an
argument. `Reader.read` ties the knot with fuel for the depth of nesting.
-/

namespace Dql.Shell

/-- What can be read inside of something else. -/
inductive Goal where
  | command
  /-- A list up to a closing parenthesis. -/
  | parenthesized
  /-- A list up to the end of the source. -/
  | whole
deriving DecidableEq, Repr

/-- Reads what is inside of something else. -/
abbrev Reader := Goal → Scan (Option Node)

/-- What was read of a script. -/
inductive Parsed where
  | endOfFile
  /-- A complete command; none for an empty line. -/
  | command (n : Option Node)

/-- How a list ends. -/
inductive ListEnd where
  /-- With its line. -/
  | line
  /-- In front of a token that cannot start a command, behind one command at least. -/
  | compound
  /-- In front of such a token. -/
  | open
deriving DecidableEq, Repr

namespace Reader

/-- The commands inside of words. -/
def inner (r : Reader) : Scan.Inner := ⟨r .parenthesized, r .whole⟩

/-- Reads a token. -/
def token (r : Reader) : Scan Token := Scan.token r.inner

/-- Reads a command. -/
def command (r : Reader) : Scan Node := do
  match ← r .command with
  | some n => return n
  | none => Scan.unexpected none

/-! ## Redirections -/

/-- The characters of a word without its quotes. -/
def textOf (w : Word) : Bytes := w.filterMap fun p => match p with
  | .char c => some c
  | .escaped c => some c
  | _ => none

/-- What a word says that a descriptor becomes a copy of. -/
def copySource (w : Word) : CopySource :=
  match w with
  | [.char c] =>
    if c.isDigit then .descriptor (digitValue c) else if c = '-' then .nothing else .word w
  | _ => .word w

/-- Announces a document that ends with a word. -/
def announce (stripped : Bool) (w : Word) (quoted : Bool) : Scan Nat := do
  let s ← get
  set { s with
    announced := s.announced ++ [Announcement.mk s.nextDocument (textOf w) stripped quoted]
    nextDocument := s.nextDocument + 1 }
  return s.nextDocument

/-- Reads the target of a redirection. -/
def target (r : Reader) (descriptor : Nat) (kind : RedirectionKind) : Scan Redirection := do
  match kind with
  | .document _ => Scan.look { mark := true }
  | _ => pure ()
  match ← r.token with
  | .word w quoted =>
    match kind with
    | .file mode => return .file descriptor mode w
    | .copy => return .copy descriptor (copySource w)
    | .document stripped => return .document descriptor (← announce stripped w quoted)
  | _ => Scan.unexpected none

/-- Reads redirections behind a command, so many at most. -/
def redirections (r : Reader) : Nat → Scan (List Redirection)
  | 0 => return []
  | n + 1 => do
    match ← r.token with
    | .redirection descriptor kind =>
      let first ← r.target descriptor kind
      return first :: (← r.redirections n)
    | _ =>
      Scan.putTokenBack
      return []

/-! ## Simple commands -/

/-- A simple command that is being read, its parts in reverse. -/
structure SimpleState where
  assignments : List Word := []
  words : List Word := []
  redirections : List Redirection := []

/-- The builtins that functions cannot replace. -/
def specialBuiltins : List String :=
  [".", ":", "break", "continue", "eval", "exec", "exit", "export", "readonly", "return",
    "set", "shift", "times", "trap", "unset"]

/-- Whether bytes may name a function. -/
def isFunctionName (name : Bytes) : Bool :=
  isName name && !specialBuiltins.any fun b => b.toList == name

/-- Reads a function behind the opening parenthesis. -/
def definition (r : Reader) (name : Option Bytes) : Scan Node := do
  match ← r.token with
  | .closeParen => pure ()
  | _ => Scan.unexpected (some Token.closeParen.name)
  match name.filter isFunctionName with
  | none => Scan.fail "Bad function name"
  | some name =>
    Scan.look Scan.atLaterCommand
    let line := (← get).line
    return .definition line name (← r.command)

/-- Reads a simple command, so many tokens at most. -/
def simpleLoop (r : Reader) (line : Nat) : Nat → SimpleState → Scan Node
  | 0, _ => Scan.unexpected none
  | n + 1, s => do
    let early := s.words.isEmpty
    Scan.look { aliases := early }
    match ← r.token with
    | .word w _ =>
      if early && (assigned? w).isSome then
        r.simpleLoop line n { s with assignments := w :: s.assignments }
      else r.simpleLoop line n { s with words := w :: s.words }
    | .redirection descriptor kind =>
      let first ← r.target descriptor kind
      r.simpleLoop line n { s with redirections := first :: s.redirections }
    | t =>
      match t, s with
      | .openParen, ⟨[], [name], []⟩ => r.definition (plain? name)
      | _, _ =>
        Scan.putTokenBack
        return .simple line s.assignments.reverse s.words.reverse s.redirections.reverse

/-- Reads a simple command. -/
def simple (r : Reader) : Scan Node := do
  let s ← get
  Scan.putTokenBack
  r.simpleLoop s.line (s.rest.length + s.aliases.length + 2) {}

/-! ## Pipelines and lists -/

/-- Reads the commands of a pipeline behind the first, so many at most. -/
def stages (r : Reader) : Nat → Scan (List Node)
  | 0 => return []
  | n + 1 => do
    match ← r.token with
    | .pipe =>
      Scan.look Scan.atLaterCommand
      let first ← r.command
      return first :: (← r.stages n)
    | _ =>
      Scan.putTokenBack
      return []

/-- Reads a pipeline. -/
def pipeline (r : Reader) : Scan Node := do
  let negated := match ← r.token with
    | .keyword .not => true
    | _ => false
  if negated then Scan.look Scan.atCommand else Scan.putTokenBack
  let first ← r.command
  let found ← match ← r.stages ((← Scan.size) + 1) with
    | [] => pure first
    | more => pure (.pipeline (first :: more))
  return if negated then .negation found else found

/-- Reads pipelines behind the first with operators between them, so many at most. -/
def conditionsFrom (r : Reader) (first : Node) : Nat → Scan Node
  | 0 => return first
  | n + 1 => do
    match ← r.token with
    | .and =>
      Scan.look Scan.atLaterCommand
      let second ← r.pipeline
      r.conditionsFrom (.both first second) n
    | .or =>
      Scan.look Scan.atLaterCommand
      let second ← r.pipeline
      r.conditionsFrom (.either first second) n
    | _ =>
      Scan.putTokenBack
      return first

/-- Reads pipelines with operators between them. -/
def conditions (r : Reader) : Scan Node := do
  let first ← r.pipeline
  r.conditionsFrom first ((← Scan.size) + 1)

/-- Whether a token ends the list of a compound command. -/
def endsList : Token → Bool
  | .endOfFile | .endCase | .closeParen => true
  | .keyword k =>
    [.doWord, .done, .elseIf, .elseWord, .esac, .fi, .thenWord, .closeBrace].contains k
  | _ => false

/-- A command that is not waited for. -/
def inBackground : Node → Node
  | .redirected line body redirections => .background line body redirections
  | n => .background 0 n []

/-- A command behind others. -/
def after (before : Option Node) (n : Node) : Node :=
  match before with
  | none => n
  | some b => .sequence b n

/-- Reads the documents behind the end of a list. -/
def ended (r : Reader) (n : Option Node) : Scan Parsed := do
  Scan.documents r.inner
  return .command n

/-- Reads a list on, so many commands at most. -/
def listLoop (r : Reader) (ending : ListEnd) : Nat → Option Node → Scan Parsed
  | 0, before => return .command before
  | n + 1, before => do
    let byLine := ending == .line
    Scan.look (if byLine then Scan.atCommand else Scan.atLaterCommand)
    let t ← r.token
    match t with
    | .newline => r.ended before
    | .endOfFile =>
      Scan.documents r.inner
      Scan.putTokenBack
      return if before.isNone && byLine then .endOfFile else .command before
    | _ =>
      Scan.putTokenBack
      if !byLine && (ending == .open || before.isSome) && endsList t then return .command before
      let found ← r.conditions
      let t ← r.token
      let found := match t with
        | .background => inBackground found
        | _ => found
      let list := after before found
      match t with
      | .endOfFile =>
        Scan.documents r.inner
        Scan.putTokenBack
        return .command (some list)
      | .newline =>
        Scan.putTokenBack
        r.listLoop ending n (some list)
      | .background | .semicolon => r.listLoop ending n (some list)
      | _ =>
        if byLine then Scan.unexpected none
        Scan.putTokenBack
        return .command (some list)

/-- Reads a list. -/
def list (r : Reader) (ending : ListEnd) : Scan (Option Node) := do
  match ← r.listLoop ending ((← Scan.size) + 2) none with
  | .endOfFile => return none
  | .command n => return n

/-- Reads the list of a compound command in front of a token. Only the end of the source can come
instead of a list. -/
def compound (r : Reader) (next : Token) : Scan Node := do
  match ← r.list .compound with
  | some n => return n
  | none =>
    let _ ← r.token
    Scan.unexpected (some next.name)

/-! ## Compound commands -/

/-- Reads a reserved word. -/
def expect (r : Reader) (k : Keyword) : Scan Unit := do
  match ← r.token with
  | .keyword found => if found ≠ k then Scan.unexpected (some (Token.keyword k).name)
  | _ => Scan.unexpected (some (Token.keyword k).name)

/-- Reads what follows the condition of a choice, so many branches at most. -/
def branch (r : Reader) : Nat → Scan Node
  | 0 => Scan.unexpected none
  | n + 1 => do
    let test ← r.compound (.keyword .thenWord)
    r.expect .thenWord
    let yes ← r.compound (.keyword .fi)
    match ← r.token with
    | .keyword .elseIf => return .choice test yes (some (← r.branch n))
    | .keyword .elseWord => 
      return .choice test yes (some (← r.compound (.keyword .fi)))
    | _ =>
      Scan.putTokenBack
      return .choice test yes none

/-- Reads words, so many at most, and the token behind them. -/
def wordsLoop (r : Reader) : Nat → Scan (List Word × Token)
  | 0 => return ([], .endOfFile)
  | n + 1 => do
    match ← r.token with
    | .word w _ =>
      let (words, t) ← r.wordsLoop n
      return (w :: words, t)
    | t => return ([], t)

/-- Reads a loop over words, behind its reserved word. -/
def each (r : Reader) (line : Nat) : Scan Node := do
  let name ← match ← r.token with
    | .word w false => pure ((plain? w).filter isName)
    | _ => pure none
  match name with
  | none => Scan.fail "Bad for loop variable"
  | some name =>
    Scan.look Scan.atLaterCommand
    let words ← match ← r.token with
      | .keyword .inWord =>
        match ← r.wordsLoop ((← Scan.size) + 1) with
        | (words, .newline) => pure words
        | (words, .semicolon) => pure words
        | _ => Scan.unexpected none
      | t =>
        match t with
        | .semicolon => pure ()
        | _ => Scan.putTokenBack
        pure [[.quote, .parameter ['@'] .value [], .quote]]
    Scan.look Scan.atLaterCommand
    r.expect .doWord
    return .each line name words (← r.compound (.keyword .done))

/-- The word of a token. -/
def wordOf : Token → Word
  | .word w _ => w
  | .keyword k => k.spelling.toList.map .char
  | _ => []

/-- Reads the patterns of a branch, so many at most, behind the token of the first. -/
def patterns (r : Reader) (first : Token) : Nat → Scan (List Word)
  | 0 => return []
  | n + 1 => do
    match ← r.token with
    | .pipe =>
      let next ← r.token
      return wordOf first :: (← r.patterns next n)
    | .closeParen => return [wordOf first]
    | _ => Scan.unexpected (some Token.closeParen.name)

/-- Reads the branches of a selection, so many at most. -/
def branches (r : Reader) : Nat → Scan (List (List Word × Option Node))
  | 0 => return []
  | n + 1 => do
    Scan.look { newlines := true, keywords := true }
    match ← r.token with
    | .keyword .esac => return []
    | t =>
      let first ← match t with
        | .openParen => r.token
        | t => pure t
      let found ← r.patterns first ((← Scan.size) + 1)
      let body ← r.list .open
      Scan.look { newlines := true, keywords := true }
      match ← r.token with
      | .keyword .esac => return [(found, body)]
      | .endCase => return (found, body) :: (← r.branches n)
      | _ => Scan.unexpected (some Token.endCase.name)

/-- Reads a selection, behind its reserved word. -/
def select (r : Reader) (line : Nat) : Scan Node := do
  match ← r.token with
  | .word w _ =>
    Scan.look Scan.atLaterCommand
    r.expect .inWord
    return .select line w (← r.branches ((← Scan.size) + 1))
  | _ => Scan.unexpected (some "word")

/-- A command with redirections. -/
def redirect (line : Nat) (n : Node) (redirections : List Redirection) : Node :=
  match n, redirections with
  | n, [] => n
  | .subshell line body _, redirections => .subshell line body redirections
  | n, redirections => .redirected line n redirections

/-- Reads the redirections behind a command. -/
def withRedirections (r : Reader) (line : Nat) (n : Node) : Scan Node := do
  Scan.look Scan.atCommand
  return redirect line n (← r.redirections ((← Scan.size) + 1))

/-- Reads a command that starts with a token. -/
def commandFrom (r : Reader) (line : Nat) (t : Token) : Scan Node := do
  match t with
  | .keyword .ifWord =>
    let n ← r.branch ((← Scan.size) + 1)
    r.expect .fi
    r.withRedirections line n
  | .keyword .whileWord | .keyword .untilWord =>
    let inverted := match t with
      | .keyword .untilWord => true
      | _ => false
    let test ← r.compound (.keyword .doWord)
    r.expect .doWord
    let body ← r.compound (.keyword .done)
    r.expect .done
    r.withRedirections line (.loop inverted test body)
  | .keyword .forEach =>
    let n ← r.each line
    r.expect .done
    r.withRedirections line n
  | .keyword .caseOf => r.withRedirections line (← r.select line)
  | .openParen =>
    let n ← r.compound .closeParen
    match ← r.token with
    | .closeParen => r.withRedirections line (.subshell line n [])
    | _ => Scan.unexpected (some Token.closeParen.name)
  | .keyword .openBrace =>
    let n ← r.compound (.keyword .closeBrace)
    r.expect .closeBrace
    r.withRedirections line n
  | .word _ _ | .redirection _ _ => r.simple
  | _ => Scan.unexpected none

/-- Reads a list inside of a word, up to a token that ends it. -/
def listUpTo (r : Reader) (isEnd : Token → Bool) (expected : Option String) :
    Scan (Option Node) := do
  let announced := (← get).announced
  modify fun s => { s with announced := [] }
  let n ← r.list .open
  if !isEnd (← r.token) then Scan.unexpected expected
  Scan.documents r.inner
  modify fun s => { s with announced := announced }
  return n

/-- Reads what is asked for with a reader for what is inside of it. -/
def step (r : Reader) : Reader
  | .command => do
    let line := (← get).line
    return some (← r.commandFrom line (← r.token))
  | .parenthesized =>
    r.listUpTo (fun t => match t with
      | .closeParen => true
      | _ => false) (some Token.closeParen.name)
  | .whole =>
    r.listUpTo (fun t => match t with
      | .endOfFile => true
      | _ => false) none

/-- Reads with fuel for the depth of nesting. -/
def read : Nat → Reader
  | 0 => fun _ => Scan.fail "nested too deeply"
  | n + 1 => step (read n)

end Reader

/-- The depth of nesting that can be read. -/
def nestingBound : Nat := 4000

/-- Reads a complete command of a script. -/
def parseCommand (s : Source) : Except SyntaxError (Parsed × Source) :=
  (Reader.listLoop (Reader.read nestingBound) .line (s.rest.length + 2) none).run
    { s with lookout := {}, again := false }

end Dql.Shell
