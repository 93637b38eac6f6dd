import Dql.Command
import Dql.Duration
import Dql.Json.Basic
import Dql.Toml.Reader
import Dql.Toml.Writer

/-!
# Settings

The settings say how long the store may take and which programs stand in for the
parser and the store. They are kept in a configuration file; what the file does
not say is not set, and what it says of other things is skipped. `Settings.ofText?`
reads a file, `Settings.toText` writes one, with a table for each program.
-/

namespace Dql

/-- The settings. -/
structure Settings where
  /-- The milliseconds that a single request may take in the store. -/
  storeTimeout : Option Nat := none
  parser : Option Command := none
  store : Option Command := none
deriving DecidableEq, Repr

namespace Command

/-! ## Commands in configuration files -/

/-- Reads strings. -/
def strings? : List Toml.Value → Option (List String)
  | [] => some []
  | .string s :: rest => (strings? rest).map (s :: ·)
  | _ :: _ => none

/-- Reads a list of strings. -/
def arguments? : Toml.Value → Option (List String)
  | .array items => strings? items
  | _ => none

/-- Reads a program with its arguments, which may be missing. -/
def ofParts? (program arguments : Option Toml.Value) : Option Command :=
  match program with
  | some (.string program) =>
    match arguments with
    | none => some ⟨program, []⟩
    | some v => (arguments? v).map (⟨program, ·⟩)
  | _ => none

/-- Reads a command: a table, or a list of the program and its arguments. -/
def ofValue? : Toml.Value → Option Command
  | .table _ entries => ofParts? (Toml.find? "program" entries) (Toml.find? "args" entries)
  | .array (program :: rest) => ofParts? (some program) rest.head?
  | _ => none

/-- The table of a command under a name. -/
def toText (name : String) (c : Command) : String :=
  "[" ++ name ++ "]\nprogram = " ++ Toml.stringText c.program ++
    "\nargs = " ++ Toml.listText c.arguments ++ "\n"

/-- A command in JSON. -/
def toJson (c : Command) : Json :=
  .object [("program", .string c.program), ("args", .array (c.arguments.map .string))]

end Command

namespace Settings

/-- Reads something that need not be there. -/
def optional? {α : Type} (read : Toml.Value → Option α) : Option Toml.Value → Option (Option α)
  | none => some none
  | some v => (read v).map some

/-- Reads a number of milliseconds. -/
def milliseconds? : Toml.Value → Option Nat
  | .integer n => if 0 ≤ n then some n.toNat else none
  | _ => none

/-- Reads settings from the table of a configuration file. -/
def ofEntries? (entries : Toml.Entries) : Option Settings := do
  return {
    storeTimeout := ← optional? milliseconds? (Toml.find? "store_timeout_ms" entries)
    parser := ← optional? Command.ofValue? (Toml.find? "parser" entries)
    store := ← optional? Command.ofValue? (Toml.find? "store" entries) }

/-- Reads settings. -/
def ofText? (text : String) : Option Settings := do ofEntries? (← Toml.ofText? text)

/-- Writes settings: what is not set is left out, tables are set apart by a blank line. -/
def toText (s : Settings) : String :=
  let timeout := match s.storeTimeout with
    | some ms => ["store_timeout_ms = " ++ toString ms ++ "\n"]
    | none => []
  let parser := (s.parser.map (Command.toText "parser")).toList
  let store := (s.store.map (Command.toText "store")).toList
  Text.join "\n" (timeout ++ parser ++ store)

/-- Settings in JSON; what is not set is left out. -/
def toJson (s : Settings) : Json :=
  let member {α : Type} (key : String) (value : Option α) (write : α → Json) :=
    (value.map fun x => (key, write x)).toList
  .object (member "store_timeout_ms" s.storeTimeout .ofNat ++
    member "parser" s.parser Command.toJson ++ member "store" s.store Command.toJson)

/-- The time that a request may take in the store. -/
def storeLimit (s : Settings) : Option Duration := s.storeTimeout.map Duration.mk

end Settings

end Dql
