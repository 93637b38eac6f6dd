import Dql.Shell.Quotation
import Dql.Shell.Redirection
import Dql.Shell.Utility.Basic

/-!
# Showing files

`cat` writes files one after the other, a dash standing for what there is to read. Options
number lines, leave out repeated blank ones, and make ends of lines, tabs and other bytes
visible. Lines are counted over all files, and a file whose last line is not ended goes on in
the next one.
-/

namespace Dql.Shell.Utility.Cat

/-- What is shown beside the bytes themselves. -/
structure Options where
  numbers : Bool := false
  /-- Numbers are for lines that are not blank. -/
  nonblank : Bool := false
  squeeze : Bool := false
  ends : Bool := false
  tabs : Bool := false
  hidden : Bool := false
deriving DecidableEq, Repr

/-- The options of a letter. -/
def Options.add? (o : Options) (letter : Char) : Option Options :=
  match letter with
  | 'n' => some { o with numbers := true }
  | 'b' => some { o with numbers := true, nonblank := true }
  | 's' => some { o with squeeze := true }
  | 'E' => some { o with ends := true }
  | 'T' => some { o with tabs := true }
  | 'v' => some { o with hidden := true }
  | 'A' => some { o with ends := true, tabs := true, hidden := true }
  | 'e' => some { o with ends := true, hidden := true }
  | 't' => some { o with tabs := true, hidden := true }
  | 'u' => some o
  | _ => none

/-- The long options, each with the letter that means the same. -/
def longOptions : List (String × Char) := [
  ("number-nonblank", 'b'), ("number", 'n'), ("squeeze-blank", 's'), ("show-nonprinting", 'v'),
  ("show-ends", 'E'), ("show-tabs", 'T'), ("show-all", 'A')]

/-- A byte made visible. -/
def visible (c : Char) : Bytes :=
  let below : Nat → Bytes := fun n =>
    if n < 0x20 then ['^', Char.ofNat (n + 0x40)] else if n = 0x7F then ['^', '?']
    else [Char.ofNat n]
  if c.toNat < 0x80 then below c.toNat else 'M' :: '-' :: below (c.toNat - 0x80)

/-- A byte of a line; `last` says that the line ends behind it. -/
def shown (o : Options) (last : Bool) (c : Char) : Bytes :=
  if c = '\t' then (if o.tabs then ['^', 'I'] else [c])
  else if o.hidden then visible c
  else if o.ends && last && c == '\r' then ['^', 'M']
  else [c]

/-- The bytes of a line. -/
def shownLine (o : Options) (ended : Bool) : Bytes → Bytes
  | [] => []
  | [c] => shown o ended c
  | c :: rest => shown o false c ++ shownLine o ended rest

/-- Where showing has got to. -/
structure Progress where
  /-- The lines that were numbered. -/
  numbered : Nat := 0
  /-- Whether the last line was not ended. -/
  inLine : Bool := false
  /-- Whether the last line was blank. -/
  wasBlank : Bool := false
deriving DecidableEq, Repr

/-- The number in front of a line. -/
def lineNumber (n : Nat) : Bytes :=
  let digits := Bytes.ofNat n
  List.replicate (6 - digits.length) ' ' ++ digits ++ ['\t']

/-- Shows a line, or the last one of a file that is not ended. -/
def line (o : Options) (p : Progress) (bytes : Bytes) (ended : Bool) : Bytes × Progress :=
  let blank := bytes.isEmpty && !p.inLine
  if blank && p.wasBlank && o.squeeze then ([], p)
  else
    let counts := o.numbers && !p.inLine && !(blank && o.nonblank)
    let front := if counts then lineNumber (p.numbered + 1) else []
    let ending := if ended then (if o.ends then ['$', '\n'] else ['\n']) else []
    (front ++ shownLine o ended bytes ++ ending,
      { numbered := p.numbered + if counts then 1 else 0
        inLine := !ended
        wasBlank := blank })

/-- Shows lines, the last of which is not ended. -/
def lines (o : Options) (p : Progress) : List Bytes → Bytes × Progress
  | [] => ([], p)
  | [last] => if last.isEmpty then ([], p) else line o p last false
  | first :: rest =>
    let (front, p) := line o p first true
    let (behind, p) := lines o p rest
    (front ++ behind, p)

/-- Shows the content of a file. -/
def content (o : Options) (p : Progress) (bytes : Bytes) : Bytes × Progress :=
  if o = {} then (bytes, p) else lines o p (Bytes.splitAt '\n' bytes)

/-- Reads the letters of an option. -/
def letters (o : Options) : Bytes → Except Bytes Options
  | [] => .ok o
  | c :: rest =>
    match o.add? c with
    | some o => letters o rest
    | none => .error (say "invalid option -- '" ++ [c, '\''])

/-- Reads a long option. -/
def long (o : Options) (option : Bytes) : Except Bytes Options :=
  let name := option.takeWhile (· != '=')
  let known : List (String × Char) := longOptions ++ [("help", '?'), ("version", '?')]
  let found : List (String × Char) := match known.filter fun k => k.1.toList == name with
    | [] => known.filter fun k => name.isPrefixOf k.1.toList
    | exact => exact
  match found with
  | [] => .error (say "unrecognized option '--" ++ option ++ ['\''])
  | [(full, letter)] =>
    if option.contains '=' then
      .error (say s!"option '--{full}' doesn't allow an argument")
    else .ok ((o.add? letter).getD o)
  | several =>
    .error (say "option '--" ++ name ++ say "' is ambiguous; possibilities:" ++
      several.flatMap fun k => say (" '--" ++ k.1 ++ "'"))

/-- Reads arguments: options, and the files between and behind them. -/
def arguments (o : Options) : List Bytes → Except Bytes (Options × List Bytes)
  | [] => .ok (o, [])
  | ['-', '-'] :: rest => .ok (o, rest)
  | ('-' :: '-' :: option) :: rest => do arguments (← long o option) rest
  | ('-' :: c :: more) :: rest => do arguments (← letters o (c :: more)) rest
  | file :: rest => do
    let (o, files) ← arguments o rest
    return (o, file :: files)

/-- Whether writing goes to the end of the file that an opening reads, or behind it. -/
def readsOutput (w : World) (input output : Nat) : Bool :=
  match w.openings[input]?, w.openings[output]? with
  | some i, some o =>
    match i.target, o.target with
    | .file p, .file q =>
      p == q && i.offset < (if o.appending then (w.contentOf q).size else o.offset)
    | _, _ => false
  | _, _ => false

/-- Shows what an opening gives. Answers whether it could be read, or nothing if it could not be
written. -/
def showOpening (program : Bytes) (o : Options) (p : Progress) (name : Bytes) (input : Option Nat) :
    Exec (Option (Bool × Progress)) := do
  let w ← Exec.world
  let s ← Exec.shell
  let found := match input with
    | none => Except.error AccessError.badDescriptor
    | some n => w.available n
  match found with
  | .error e =>
    complain program (Quotation.fileName name ++ say (": " ++ e.message))
    return some (false, p)
  | .ok bytes =>
    if input.any fun n => (s.opening? 1).any fun o => readsOutput w n o then
      complain program (Quotation.fileName name ++ say ": input file is output file")
      return some (false, p)
    if let some n := input then Exec.modifyWorld fun w => w.advance n bytes.size
    let (shown, p) := content o p (Bytes.ofArray bytes)
    match ← Exec.writeTo 1 shown with
    | none => return some (true, p)
    | some e =>
      complain program (say ("write error: " ++ e.message))
      return none

/-- Shows files one after the other, and answers the status. -/
def showAll (program : Bytes) (o : Options) (p : Progress) (status : Nat) :
    List Bytes → Exec Nat
  | [] => return status
  | name :: rest => do
    let input : Option (Option Nat) ←
      if name = ['-'] then pure (some ((← Exec.shell).opening? 0))
      else
        match ← openFile .read false name with
        | .ok n => pure (some (some n))
        | .error e =>
          complain program (Quotation.fileName name ++ say (": " ++ e.message))
          pure none
    match input with
    | none => showAll program o p 1 rest
    | some input =>
      match ← showOpening program o p name input with
      | none => return 1
      | some (read, p) => showAll program o p (if read then status else 1) rest

/-- Runs `cat`, and answers the status. -/
def run (program : Bytes) (args : List Bytes) : Exec Nat := do
  match arguments {} args with
  | .error message => refuse program message
  | .ok (o, files) =>
    match (← Exec.shell).opening? 1 with
    | none =>
      complain program (say "standard output: Bad file descriptor")
      return 1
    | some _ =>
      let files := if files.isEmpty then [['-']] else files
      let status ← showAll program o {} 0 files
      if files.contains ['-'] && ((← Exec.shell).opening? 0).isNone then
        complain program (say "closing standard input: Bad file descriptor")
        return 1
      return status

end Dql.Shell.Utility.Cat
