import Dql.Command
import Dql.Exchange
import Dql.Files
import Dql.Json.Reader
import Dql.Parsed.Codec
import Dql.Text.Blank
import Dql.Text.Lossy

/-!
# External programs

A program can stand in for the parser or for the store. It is started anew for
each inquiry, reads it in JSON, and answers with what it writes: the queries in
JSON for a parser, the response for a store. One that ends with a status other
than zero has refused, and what it complained of is the message.

How a program is started is left open (`Launcher`). What programs write into files is there
for those that are started later, so what one answers depends on all that was asked before.
-/

namespace Dql

/-- How a program ended. -/
structure Ending where
  status : Nat
  /-- What it wrote. -/
  output : ByteArray
  /-- What it complained of. -/
  complaint : ByteArray
  /-- The time that it took. -/
  elapsed : Duration

/-- Why a program cannot be started. -/
inductive StartError where
  | notFound
  | denied
  /-- A name in front of another in its path is not a folder's. -/
  | notFolder
  | tooLong
  /-- Its name or an argument holds the character NUL. -/
  | nul
deriving DecidableEq, Repr

/-- The wording of why a program cannot be started. -/
def StartError.message : StartError → String
  | notFound => "No such file or directory (os error 2)"
  | denied => "Permission denied (os error 13)"
  | notFolder => "Not a directory (os error 20)"
  | tooLong => "File name too long (os error 36)"
  | nul => "nul byte found in provided data"

/-- Starts programs: what becomes of a command with something to read, and of the files. -/
abbrev Launcher := Files → Command → ByteArray → Except StartError Ending × Files

/-- Why a program does not answer. -/
inductive ProgramError where
  | start (program : String) (cause : StartError)
  /-- It ended with a status other than zero. -/
  | refused (complaint : String)
deriving DecidableEq, Repr

/-- The wording of why a program does not answer. -/
def ProgramError.message : ProgramError → String
  | start program cause => "start " ++ program ++ ": " ++ cause.message
  | refused complaint => complaint

/-- What a program reads. -/
def Inquiry.toBytes (i : Inquiry) : ByteArray := i.toJson.compact.toUTF8

/-- What a program answered, by how it ended. -/
def Ending.answer (e : Ending) : Except ProgramError ByteArray :=
  if e.status = 0 then .ok e.output
  else .error (.refused (Text.trim (Text.decodeBytes e.complaint)))

/-- Reads the queries that a parser answered. -/
def readQueries? (answer : ByteArray) : Option (List ParsedQuery) := do
  (Reading.list ParsedQuery.record.read (← Document.ofBytes? answer)).toOption

namespace Command

/-- What a program answers by what became of it, and the time that it takes. -/
def answer (c : Command) (outcome : Except StartError Ending) :
    Duration × Except ProgramError ByteArray :=
  match outcome with
  | .error cause => (⟨0⟩, .error (.start c.program cause))
  | .ok ending => (ending.elapsed, ending.answer)

/-- What a program answers as a parser. -/
def parse (c : Command) (outcome : Except StartError Ending) :
    Except ParseError (List ParsedQuery) :=
  match (c.answer outcome).2 with
  | .error e => .error ⟨e.message⟩
  | .ok answer =>
    match readQueries? answer with
    | some queries => .ok queries
    | none => .error ⟨"decode parser output"⟩

/-- What a program answers as a store. -/
def execute (c : Command) (outcome : Except StartError Ending) : DelayedAnswer :=
  let (elapsed, answer) := c.answer outcome
  ⟨elapsed, answer.mapError fun e => .request e.message⟩

end Command

/-- The programs that stand in for the parser and for the store, and the files that they share. -/
structure Programs where
  launch : Launcher
  files : Files := {}
  parser : Option Command := none
  store : Option Command := none

namespace Programs

/-- The program that answers an inquiry. -/
def command? (p : Programs) : Question → Option Command
  | .parse _ => p.parser
  | .execute _ => p.store

/-- The files after some inquiries. -/
def filesAfter (p : Programs) (log : Log) : Files :=
  log.questions.foldl (fun files q =>
    match p.command? q with
    | some c => (p.launch files c q.inquiry.toBytes).2
    | none => files) p.files

/-- The parser, if a program stands in for it. -/
def toParser? (p : Programs) : Option Parser :=
  p.parser.map fun c log i => c.parse (p.launch (p.filesAfter log) c i.toBytes).1

/-- The store, if a program stands in for it. -/
def toStore? (p : Programs) : Option SlowStore :=
  p.store.map fun c log i => c.execute (p.launch (p.filesAfter log) c i.toBytes).1

end Programs

end Dql
