import Dql.CommandLine.Arguments
import Dql.Program
import Dql.Request
import Dql.Settings

/-!
# Running a command line

A task reads its input from a file or from what it is given to read, asks the
programs that the settings name, and prints one result. All that it sees of the
world is in `Surroundings`, and all that it changes: what was to be read is gone, and
programs may have left files. So a run (`run`) takes surroundings to a result and to
other surroundings.

Settings are read first, and a settings file that is not there sets nothing. A task
asks for the programs it needs before it reads anything, but for `render`, which reads
its block first and needs the parser only if it is configured or the check is asked for.
-/

namespace Dql.CommandLine

/-- What a command line sees of the world. -/
structure Surroundings where
  files : Files := {}
  /-- What there is to read. -/
  input : ByteArray := .empty
  /-- Where the settings are unless an argument says so. -/
  settingsPath : String
  launch : Launcher

/-- Why a command line has no result. -/
inductive Failure where
  | usage (e : UsageError)
  | unreadableSettings (path : String)
  | invalidSettings (path : String)
  | unreadableInput
  | unreadable (path : String)
  | invalidBlock (input : String)
  | invalidRequest (input : String)
  | invalidResponse (input : String)
  | noParser (settingsPath : String)
  | noStore (settingsPath : String)
  /-- Template and response are both to be read from the same place. -/
  | inputTwice
  | request (e : RequestError)
deriving DecidableEq, Repr

namespace Failure

/-- The wording of a failure. -/
def message : Failure → String
  | usage e => e.message
  | unreadableSettings path => s!"Failed to read settings file: {path}"
  | invalidSettings path => s!"Invalid settings file: {path}"
  | unreadableInput => "Failed to read stdin"
  | unreadable path => s!"Failed to read {path}"
  | invalidBlock input => s!"Invalid query block in {input}"
  | invalidRequest input => s!"Invalid query request in {input}"
  | invalidResponse input => s!"Invalid JSON response in {input}"
  | noParser path => s!"no external parser configured; set [parser] program in {path}"
  | noStore path => s!"no store configured; set [store] program in {path}"
  | inputTwice => "only one of --template and --response can read stdin"
  | request e => e.message

/-- The exit code of a failure. -/
def code : Failure → Nat
  | usage _ => 2
  | _ => 1

end Failure

/-- What a command line does: it may fail, and changes its surroundings. -/
abbrev Action := ExceptT Failure (StateM Surroundings)

namespace Action

/-- Fails for a reason. -/
def ofExcept {ε α : Type} (failure : ε → Failure) : Except ε α → Action α
  | .ok x => pure x
  | .error e => throw (failure e)

/-! ## Reading -/

/-- All that there is to read, which can be read once. -/
def input : Action ByteArray := do
  let s ← get
  set { s with input := .empty }
  return s.input

/-- The bytes at a path, if it leads to something that can be read. -/
def bytes? (path : String) : Action (Option ByteArray) := do
  match (← get).files.entry workingPlace (Bytes.ofString path) with
  | .ok (.file content) => return some content
  | .ok (.device .null) => return some .empty
  | .ok (.device (.descriptor 0)) => return some (← input)
  | _ => return none

/-- The text of bytes that have been read. -/
def text (failure : Failure) (bytes : Option ByteArray) : Action String :=
  match bytes.bind String.fromUTF8? with
  | some text => pure text
  | none => throw failure

/-- The text of an input: a file, or what there is to read for a single dash. -/
def read (path : String) : Action String := do
  if path = "-" then text .unreadableInput (some (← input))
  else text (.unreadable path) (← bytes? path)

/-- Reads a value of a record from an input. -/
def readRecord {α : Type} (record : Record α) (path : String) (invalid : Failure) :
    Action α := do
  match Document.ofText? (← read path) with
  | none => throw invalid
  | some document => ofExcept (fun _ => invalid) (record.read document)

/-- Reads a block. -/
def readBlock (path : String) : Action Block := readRecord Block.record path (.invalidBlock path)

/-- The settings at a path. -/
def settings (path : String) : Action Settings := do
  match (← get).files.entry workingPlace (Bytes.ofString path) with
  | .error _ => return {}
  | .ok .missing => return {}
  | .ok _ =>
    match Settings.ofText? (← text (.unreadableSettings path) (← bytes? path)) with
    | none => throw (.invalidSettings path)
    | some settings => return settings

/-! ## Programs -/

/-- The programs of the settings. -/
def programs (settings : Settings) : Action Programs := do
  let s ← get
  return {
    launch := s.launch, files := s.files, parser := settings.parser, store := settings.store }

/-- The parser of the settings. -/
def parser (settings : Settings) : Action Parser := do
  match (← programs settings).toParser? with
  | some parser => return parser
  | none => throw (.noParser (← get).settingsPath)

/-- The store of the settings, with the time that they give it. -/
def store (settings : Settings) : Action Store := do
  match (← programs settings).toStore?, settings.storeLimit with
  | some store, some limit => return store.within limit
  | some store, none => return store.patient
  | none, _ => throw (.noStore (← get).settingsPath)

/-- The result of a run that asked the programs of the settings, which may have left files. -/
def finish {ε α : Type} (settings : Settings) (failure : ε → RequestError) (r : Run ε α) :
    Action α := do
  let programs ← programs settings
  modify fun s => { s with files := programs.filesAfter r.log }
  ofExcept (fun e => .request (failure e)) r.outcome

/-! ## Tasks -/

/-- Writes the text of a block. -/
def render (settings : Settings) (input : String) (validate : Bool) : Action String := do
  let block ← readBlock input
  if validate || settings.parser.isSome then
    let parser ← parser settings
    finish settings id (block.template parser {})
  else ofExcept (fun e => .request (.render e)) block.render

/-- Shows what a text says. -/
def parse (settings : Settings) (input : String) (values : Table String String) :
    Action String := do
  let parser ← parser settings
  let text ← read input
  let queries ← finish settings .parse (parseText parser {} ⟨text, values⟩)
  return (Json.array (Query.allToJson queries)).pretty

/-- Answers a request. -/
def query (settings : Settings) (input : String) : Action String := do
  let parser ← parser settings
  let store ← store settings
  let request ← readRecord Request.record input (.invalidRequest input)
  let response ← finish settings id (request.run parser store {})
  return response.sortKeys.pretty

/-- Fills a response with the fallbacks of a block. -/
def defaults (template response : String) : Action String := do
  if template = "-" ∧ response = "-" then throw .inputTwice
  let block ← readBlock template
  match Json.ofText? (← read response) with
  | none => throw (.invalidResponse response)
  | some answer => return (Response.applyFallbacks block.queries answer).sortKeys.pretty

/-- Carries out a task. -/
def perform (settings : Settings) : Task → Action String
  | .render input validate => render settings input validate
  | .parse input values => parse settings input values
  | .query input => query settings input
  | .defaults template response => defaults template response

/-- Carries out what arguments ask for. -/
def ofArguments (arguments : List String) : Action String := do
  let invocation ← ofExcept .usage (Invocation.ofArguments arguments)
  let settings ← settings (invocation.settings.getD (← get).settingsPath)
  perform settings invocation.task

end Action

/-- What a command line prints, without the line break at its end, and its surroundings
afterwards. -/
def run (s : Surroundings) (arguments : List String) : Except Failure String × Surroundings :=
  (Action.ofArguments arguments).run s

/-- Where the settings are, by the folders for configuration and of the user. -/
def defaultSettingsPath (configuration home : Option String) : String :=
  let folder := match configuration.filter (·.startsWith "/"), home with
    | some folder, _ => folder
    | none, some home => home ++ "/.config"
    | none, none => "."
  folder ++ "/dqltools/config.toml"

end Dql.CommandLine
