/-!
# Configuration values

A configuration file in TOML is a sequence of statements: assignments to keys,
and headers that say which table the assignments behind them go to. A key is a
path of names. `Toml.ofStatements?` builds the table that the statements describe
and refuses those that define a name twice or add to what is already closed:

* a table named by a header is closed to further headers of the same path, and to
  assignments through it from elsewhere;
* a table that only came to be on the way to another may still be named by a header;
* a table that came to be by a dotted key takes further dotted keys only;
* a table written inline takes nothing.

Numbers with a fraction and points in time are told apart from other values, but
nothing more is kept of them.
-/

namespace Dql.Toml

/-- How a table came to be. -/
inductive Origin where
  /-- A header names it, or it is the root. -/
  | header
  /-- It lies on the path of a header. -/
  | implicit
  /-- It lies on the path of a dotted key. -/
  | dotted
  /-- It is written as a value. -/
  | inline
deriving DecidableEq, Repr

/-- A value of a configuration file. -/
inductive Value where
  | string (s : String)
  | integer (n : Int)
  | float
  | boolean (b : Bool)
  | dateTime
  | array (items : List Value)
  | table (origin : Origin) (entries : List (String × Value))
  /-- The tables of one header in double brackets, in reverse. -/
  | tables (reversed : List (List (String × Value)))
deriving Inhabited

/-- The bindings of a table, in the order in which they were made. -/
abbrev Entries := List (String × Value)

/-- The value of a name. -/
def find? (name : String) : Entries → Option Value
  | [] => none
  | (n, v) :: rest => if n = name then some v else find? name rest

/-- Binds a name, in place of the value that it has. -/
def bind (name : String) (value : Value) : Entries → Entries
  | [] => [(name, value)]
  | (n, v) :: rest => if n = name then (name, value) :: rest else (n, v) :: bind name value rest

/-- Assigns a value to a path of names. What lies on the path has to be open to
dotted keys, and the name itself to be new. -/
def assign? (value : Value) : List String → Entries → Option Entries
  | [], _ => none
  | [name], entries =>
    if (find? name entries).isSome then none else some (entries ++ [(name, value)])
  | name :: next :: path, entries =>
    match find? name entries with
    | none => (assign? value (next :: path) []).map fun inner =>
        entries ++ [(name, .table .dotted inner)]
    | some (.table o inner) =>
      if o = .dotted ∨ (o = .implicit ∧ !path.isEmpty) then
        (assign? value (next :: path) inner).map fun inner => bind name (.table o inner) entries
      else none
    | some (.tables (last :: earlier)) =>
      if path.isEmpty then none
      else (assign? value (next :: path) last).map fun last =>
        bind name (.tables (last :: earlier)) entries
    | some _ => none

/-- Changes the table at a path of headers, creating what is missing on the way; the
last of several tables of a header in double brackets is the one that is meant. -/
def under? (change : Entries → Option Entries) : List String → Entries → Option Entries
  | [], entries => change entries
  | name :: path, entries =>
    match find? name entries with
    | none => (under? change path []).map fun inner => entries ++ [(name, .table .implicit inner)]
    | some (.table .inline _) => none
    | some (.table o inner) =>
      (under? change path inner).map fun inner => bind name (.table o inner) entries
    | some (.tables (last :: earlier)) =>
      (under? change path last).map fun last => bind name (.tables (last :: earlier)) entries
    | some _ => none

/-- Opens the table that a header names: a new one, or one that only lay on a path. -/
def openTable? (name : String) (entries : Entries) : Option Entries :=
  match find? name entries with
  | none => some (entries ++ [(name, .table .header [])])
  | some (.table .implicit inner) => some (bind name (.table .header inner) entries)
  | some _ => none

/-- Opens one more table of a header in double brackets. -/
def appendTable? (name : String) (entries : Entries) : Option Entries :=
  match find? name entries with
  | none => some (entries ++ [(name, .tables [[]])])
  | some (.tables earlier) => some (bind name (.tables ([] :: earlier)) entries)
  | some _ => none

/-- A statement of a configuration file. -/
inductive Statement where
  | assign (path : List String) (value : Value)
  | header (path : List String)
  | arrayHeader (path : List String)

/-- Applies a step to the last name of a path, below the table that the rest names. -/
def atLast? (step : String → Entries → Option Entries) (path : List String)
    (entries : Entries) : Option Entries :=
  match path.getLast? with
  | none => none
  | some name => under? (step name) path.dropLast entries

/-- Builds a table from statements; `current` is the path of the last header. -/
def build? (current : List String) (entries : Entries) : List Statement → Option Entries
  | [] => some entries
  | .assign path value :: rest => do
    build? current (← under? (assign? value path) current entries) rest
  | .header path :: rest => do build? path (← atLast? openTable? path entries) rest
  | .arrayHeader path :: rest => do build? path (← atLast? appendTable? path entries) rest

/-- The table that statements describe. -/
def ofStatements? (statements : List Statement) : Option Entries := build? [] [] statements

/-- The table that the assignments of an inline table describe. -/
def ofAssignments? (entries : Entries) : List (List String × Value) → Option Entries
  | [] => some entries
  | (path, value) :: rest => do ofAssignments? (← assign? value path entries) rest

end Dql.Toml
