import Dql.Shell.Source

/-!
# Reading words

A word ends at the first blank or operator that is not quoted. On the way to it single and
double quotes open and close, a backslash quotes one character, and a dollar sign or a
backquote starts what will be replaced. Braces and parentheses of replacements nest, each with
quotes of its own, so the reader keeps a stack of layers.

What is read is first a flat list of marks, in which replacements open and close; `nest` makes
the parts of a word of it. Documents in a script are read the same way, up to the line that
ends them.
-/

namespace Dql.Shell

/-- How characters are quoted. -/
inductive Quoting where
  | none
  | single
  | double
  /-- In an expression, where only replacements count. -/
  | expression
deriving DecidableEq, Repr

/-- The quotes and the braces that are open. -/
structure Layer where
  quoting : Quoting
  /-- Whether a backslash quotes only what means something between double quotes. -/
  doubled : Bool := false
  /-- The braces that are open, and how many of them between double quotes. -/
  braces : Nat := 0
  doubledBraces : Nat := 0
  /-- Whether double quotes are open inside of braces. -/
  inner : Bool := false
  /-- Whether the layer ends with its last brace. -/
  ofBraces : Bool := false
  /-- The parentheses that are open in an expression. -/
  parens : Nat := 0

/-- A piece of a word before replacements are nested. -/
inductive Mark where
  | part (p : Part)
  | parameter (name : Bytes) (rule : Rule)
  | arithmetic
  | close

/-- What is open while marks are nested, with the parts in front of it in reverse. -/
structure OpenPart where
  make : Word → Part
  front : List Part

/-- Closes the innermost opening. -/
def OpenPart.close : List Part → List OpenPart → List Part × List OpenPart
  | parts, [] => (parts, [])
  | parts, o :: outer => (o.make parts.reverse :: o.front, outer)

/-- Nests a mark. -/
def Mark.nest (s : List Part × List OpenPart) : Mark → List Part × List OpenPart
  | part p => (p :: s.1, s.2)
  | parameter name rule => ([], ⟨.parameter name rule, s.1⟩ :: s.2)
  | arithmetic => ([], ⟨.arithmetic, s.1⟩ :: s.2)
  | close => OpenPart.close s.1 s.2

/-- The word that marks make. -/
def Mark.toWord (marks : List Mark) : Word :=
  let (parts, openings) := marks.foldl Mark.nest ([], [])
  (openings.foldl (fun s _ => (OpenPart.close s.1 s.2)) (parts, openings)).1.reverse

/-- A word that is being read. -/
structure WordState where
  layer : Layer
  outer : List Layer := []
  /-- The marks so far, in reverse. -/
  marks : List Mark := []
  /-- Whether a part of the word is quoted. -/
  quoted : Bool := false
  /-- Whether a document is being read instead of a word. -/
  document : Bool := false

namespace WordState

/-- Adds a part. -/
def add (s : WordState) (p : Part) : WordState := { s with marks := .part p :: s.marks }

/-- Adds a character that is not special here. -/
def addChar (s : WordState) (c : Char) : WordState :=
  match s.layer.quoting with
  | .none | .expression => s.add (.char c)
  | .single => s.add (if s.document && !s.layer.doubled then .char c else .escaped c)
  | .double => s.add (.escaped c)

/-- Adds a quotation mark; documents have none. -/
def addQuote (s : WordState) : WordState := if s.document then s else s.add .quote

/-- Changes the innermost layer. -/
def withLayer (s : WordState) (f : Layer → Layer) : WordState := { s with layer := f s.layer }

/-- Opens a layer. -/
def push (s : WordState) (l : Layer) : WordState :=
  { s with layer := l, outer := s.layer :: s.outer }

/-- Closes the innermost layer. -/
def pop (s : WordState) : WordState :=
  match s.outer with
  | l :: outer => { s with layer := l, outer := outer }
  | [] => s

/-- Opens or closes double quotes inside of braces. -/
def toggleInner (s : WordState) : WordState :=
  s.withLayer fun l => if 0 < l.braces then { l with inner := !l.inner } else l

/-- Opens single quotes. -/
def openSingle (s : WordState) : WordState :=
  (s.withLayer fun l => { l with quoting := .single }).addQuote

/-- Opens double quotes. -/
def openDouble (s : WordState) : WordState :=
  ((s.withLayer fun l => { l with quoting := .double, doubled := true }).toggleInner).addQuote

/-- Closes quotes. -/
def closeQuotes (s : WordState) (c : Char) : WordState :=
  if s.document && s.layer.braces == 0 then s.add (.char c)
  else
    let s := { s with quoted := true }.withLayer fun l =>
      if l.doubledBraces = 0 then { l with quoting := .none, doubled := false } else l
    (if c = '"' then s.toggleInner else s).addQuote

/-- Closes a brace. -/
def closeBrace (s : WordState) : WordState :=
  let l := s.layer
  if !l.inner && 0 < l.braces then
    let closed := { s with marks := .close :: s.marks }
    if l.braces = 1 ∧ l.ofBraces then closed.pop
    else closed.withLayer fun l =>
      { l with braces := l.braces - 1, doubledBraces := l.doubledBraces - 1 }
  else s.addChar '\x7d'

/-- Opens what replaces a parameter. -/
def openParameter (s : WordState) (name : Bytes) (rule : Rule) : WordState :=
  if rule = .value then s.add (.parameter name .value [])
  else
    let wanted := match rule with
      | .trim _ _ => .none
      | _ => if s.layer.quoting = .expression then .double else s.layer.quoting
    let s := if wanted ≠ s.layer.quoting || s.layer.inner then
        s.push { quoting := wanted, doubled := wanted != .none, ofBraces := true }
      else s
    { s with marks := .parameter name rule :: s.marks }.withLayer fun l =>
      { l with
        braces := l.braces + 1
        doubledBraces := l.doubledBraces + if l.doubled then 1 else 0 }

/-- The word of what was read. -/
def toWord (s : WordState) : Word := Mark.toWord s.marks.reverse

end WordState

/-- Whether a parameter is named by a character that is no letter. -/
def isSpecialName (c : Char) : Bool := c.isDigit || "!#$*-?@".toList.contains c

/-- The rule that a character behind a parameter starts. -/
def ruleOf? (null : Bool) (c : Char) : Option Rule :=
  if c = '-' then some (.otherwise null)
  else if c = '+' then some (.instead null)
  else if c = '?' then some (.demand null)
  else if c = '=' then some (.assign null)
  else none

namespace Scan

/-- Reads characters while they satisfy a test, so many at most, behind a first one. -/
def takeJoined (test : Char → Bool) : Nat → Char → Scan Bytes
  | 0, c => return [c]
  | n + 1, c => do
    match ← nextJoined with
    | some d =>
      if test d then return c :: (← takeJoined test n d)
      putBack (some d)
      return [c]
    | none => return [c]

/-- The number of characters that are left at most. -/
def size : Scan Nat := return (← get).rest.length

/-- Reads the rule of a parameter in braces, behind its name. -/
def rule : Scan Rule := do
  match ← nextJoined with
  | some ':' =>
    match ← nextJoined with
    | some '\x7d' => return .value
    | some c => return (ruleOf? true c).getD .unknown
    | none => return .unknown
  | some '\x7d' => return .value
  | some '%' => return .trim false (← nextIf '%')
  | some '#' => return .trim true (← nextIf '#')
  | some c => return (ruleOf? false c).getD .unknown
  | none => return .unknown

/-- Reads a name in braces that starts with a character. -/
def nameFrom (c : Char) : Scan Bytes := do
  if startsName c then takeJoined isNameChar (← size) c
  else if c.isDigit then takeJoined Char.isDigit (← size) c
  else return [c]

/-- Reads a parameter whose length is asked for, behind the sharp. None if that is not what
the sharp is for. -/
def lengthOf? : Scan (Option (Bytes × Rule)) := do
  match ← nextJoined with
  | none => return none
  | some c =>
    if startsName c || c.isDigit then
      let name ← nameFrom c
      match ← nextJoined with
      | some '\x7d' =>
        putBack (some '\x7d')
        return some (name, .length)
      | d =>
        putBack d
        return some (name, .unknown)
    else
      let d ← nextJoined
      putBack d
      if c = '\x7d' ∨ d ≠ some '\x7d' then
        putBack (some c)
        return none
      return some ([c], if isSpecialName c then .length else .unknown)

/-- Reads a parameter in braces, up to the word that its rule needs. -/
def bracedParameter : Scan (Bytes × Rule) := do
  match ← nextJoined with
  | some '#' =>
    match ← lengthOf? with
    | some found => return found
    | none => return (['#'], ← rule)
  | some c =>
    if startsName c || isSpecialName c then
      let name ← nameFrom c
      return (name, ← rule)
    if c = '\x7d' then putBack (some c)
    return ([], .unknown)
  | none => return ([], .unknown)

/-- Reads the text of a command between backquotes; none if they are not closed. -/
def backquoted (doubled : Bool) : Nat → Scan (Option Bytes)
  | 0 => return none
  | n + 1 => do
    match ← nextJoined with
    | none => return none
    | some '\x60' => return some []
    | some '\\' =>
      match ← next with
      | none => return none
      | some c =>
        let bare := c == '\\' || c == '\x60' || c == '$' || (doubled && c == '"')
        return (← backquoted doubled n).map fun rest =>
          if bare then c :: rest else '\\' :: c :: rest
    | some c =>
      if c = '\n' then countLine
      return (← backquoted doubled n).map (c :: ·)

/-- Reads a command from bytes of its own, and goes on behind them. -/
def within (bytes : Bytes) (command : Scan (Option Node)) : Scan (Option Node) := do
  let outer ← get
  set { outer with rest := bytes.map .char, line := 1 }
  let found ← command
  modify fun s => { s with rest := outer.rest, line := outer.line, again := false }
  return found

/-- Commands inside of words: how one is read up to its closing parenthesis, and up to the
end of the source. -/
structure Inner where
  parenthesized : Scan (Option Node)
  whole : Scan (Option Node)

/-- Reads what a dollar sign starts. -/
def replacement (inner : Inner) (s : WordState) : Scan WordState := do
  match ← nextJoined with
  | some '(' =>
    if (← get).lookout.mark then
      putBack (some '(')
      return s.addChar '$'
    if ← nextIf '(' then
      return { s with marks := .arithmetic :: s.marks }.push
        { quoting := .expression, doubled := true }
    return s.add (.command (← inner.parenthesized))
  | some c =>
    if (← get).lookout.mark || !(c == '\x7b' || startsName c || isSpecialName c) then
      putBack (some c)
      return s.addChar '$'
    if c = '\x7b' then
      let (name, rule) ← bracedParameter
      return s.openParameter name rule
    if startsName c then
      return s.openParameter (← takeJoined isNameChar (← size) c) .value
    return s.openParameter [c] .value
  | none => return s.addChar '$'

/-- Reads what a backslash quotes. -/
def escape (s : WordState) : Scan WordState := do
  match ← next with
  | none => return s.add (.escaped '\\')
  | some c =>
    let l := s.layer
    let kept := l.doubled && !(c == '\\' || c == '\x60' || c == '$') &&
      (c != '"' || (s.document && l.braces == 0)) && (c != '\x7d' || l.braces == 0)
    let s := if kept then s.add (.escaped '\\') else s
    return { s.add (.escaped c) with quoted := true }

/-- Reads what a closing parenthesis ends in an expression. -/
def closeParen (s : WordState) : Scan WordState := do
  if 0 < s.layer.parens then
    return (s.addChar ')').withLayer fun l => { l with parens := l.parens - 1 }
  if ← nextIf ')' then return { s with marks := .close :: s.marks }.pop
  return s.addChar ')'

/-- Reads a command between backquotes. -/
def backquote (inner : Inner) (s : WordState) : Scan WordState := do
  if (← get).lookout.mark then return { s.addChar '\x60' with quoted := true }
  match ← backquoted s.layer.doubled (← size) with
  | none => fail "EOF in backquote substitution"
  | some bytes => return s.add (.command (← within bytes inner.whole))

/-- Whether a character ends a word that is not quoted. -/
def endsWord (c : Char) : Bool := "\n<>();&| \t".toList.contains c

/-- Reads a character of a word; none if the word ends in front of it. -/
def wordStep (inner : Inner) (s : WordState) (c : Char) : Scan (Option WordState) := do
  let l := s.layer
  if c = '\n' then
    if l.quoting = .none ∧ l.braces = 0 then return none
    countLine
    return s.addChar c
  match l.quoting with
  | .single => return if c = '\'' then s.closeQuotes c else s.addChar c
  | quoting =>
    if c = '\\' then escape s
    else if c = '$' then replacement inner s
    else if c = '\x60' then backquote inner s
    else if c = '\x7d' then return s.closeBrace
    else if quoting = .expression then
      if c = '(' then return (s.addChar c).withLayer fun l => { l with parens := l.parens + 1 }
      if c = ')' then closeParen s else return s.addChar c
    else if quoting = .double then
      return if c = '"' then s.closeQuotes c else s.addChar c
    else if c = '\'' then return s.openSingle
    else if c = '"' then return s.openDouble
    else if endsWord c ∧ l.braces = 0 then return none
    else return s.addChar c

/-- The symbols behind a line that is a mark. -/
def behindMark? : Bytes → List Symbol → Option (List Symbol)
  | [], [] => some []
  | [], .char '\n' :: rest => some rest
  | m :: mark, .char c :: rest => if c = m then behindMark? mark rest else none
  | _, _ => none

/-- Passes over the line that ends a document, if it is next. -/
def atMark (a : Announcement) : Scan Bool := do
  let isTab : Symbol → Bool := fun symbol => match symbol with
    | .char '\t' => true
    | _ => false
  if a.stripped then modify fun s => { s with rest := s.rest.dropWhile isTab }
  let s ← get
  match behindMark? a.mark s.rest with
  | some rest =>
    set { s with rest := rest, line := s.line + 1 }
    return true
  | none => return false

/-- The next character of a word. -/
def nextIn (s : WordState) : Scan (Option Char) :=
  if s.layer.quoting = .single then next else nextJoined

/-- Reads a word on from its next character, or a document up to its end. Answers the
character that ended it. -/
def wordLoop (inner : Inner) (document : Option Announcement) :
    Nat → WordState → Option Char → Scan (WordState × Option Char)
  | 0, s, c => return (s, c)
  | _ + 1, s, none => return (s, none)
  | n + 1, s, some c => do
    match ← wordStep inner s c with
    | none => return (s, some c)
    | some s =>
      match document with
      | some a =>
        if c = '\n' then
          if ← atMark a then return (s, none)
      | none => pure ()
      wordLoop inner document n s (← nextIn s)

/-- Complains of what is still open at the end of a word. -/
def checkClosed (s : WordState) : Scan Unit := do
  if s.layer.quoting = .expression then fail "Missing '))'"
  if s.layer.quoting ≠ .none ∧ !s.document then fail "Unterminated quoted string"
  if s.layer.braces ≠ 0 then fail "Missing '\x7d'"

/-- Reads the word that starts with a character. Answers it with whether it is quoted and
with the character that ended it, which is not read. -/
def wordFrom (inner : Inner) (c : Char) : Scan (Word × Bool × Option Char) := do
  let (s, c) ← wordLoop inner none ((← size) + 1) { layer := { quoting := .none } } (some c)
  checkClosed s
  return (s.toWord, s.quoted, c)

/-- Reads a document. -/
def documentText (inner : Inner) (a : Announcement) : Scan Word := do
  if ← atMark a then return []
  let quoting : Quoting := if a.literal then .single else .double
  let start : WordState := {
    layer := { quoting := quoting, doubled := quoting == .double }
    document := true }
  let (s, _) ← wordLoop inner (some a) ((← size) + 1) start (← nextIn start)
  checkClosed s
  return s.toWord

/-- Reads text as between double quotes up to the end of the source. -/
def quotedText (inner : Inner) : Scan Word := do
  let start : WordState := { layer := { quoting := .double, doubled := true }, document := true }
  let (s, _) ← wordLoop inner none ((← size) + 1) start (← nextIn start)
  checkClosed s
  return s.toWord

/-- Reads the documents that were announced. -/
def documents (inner : Inner) : Scan Unit := do
  let announced := (← get).announced
  modify fun s => { s with announced := [] }
  for a in announced do
    let text ← documentText inner a
    modify fun s => { s with documents := ⟨a.number, text⟩ :: s.documents }

end Scan

end Dql.Shell
