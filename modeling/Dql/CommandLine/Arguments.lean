import Dql.Table

/-!
# Arguments of the command line

A command line names one of four tasks, with its operands and options. Arguments
are first taken apart by a grammar that says which options take a value
(`Split.ofArguments`), then put together to an invocation (`Invocation.ofArguments`).

An option's value is joined to it by an equals sign or follows as the next argument,
which must not look like an option itself; `-` does not, and neither does anything
behind `--`. Every option but `--var` may be given once. The settings file may be
named before the task and behind it, and what stands behind it counts.
-/

namespace Dql.CommandLine

/-- What a command line asks for. -/
inductive Task where
  /-- Write the text of a block, with the parser's consent if need be. -/
  | render (input : String) (validate : Bool)
  /-- Show what a text says, with values for its variables. -/
  | parse (input : String) (values : Table String String)
  /-- Answer a request. -/
  | query (input : String)
  /-- Fill a response with the fallbacks of a block. -/
  | defaults (template response : String)

/-- A task and the settings file to use for it. -/
structure Invocation where
  settings : Option String := none
  task : Task

/-- Why a command line names no task. -/
inductive UsageError where
  | noTask
  | unknownTask (name : String)
  | unknownOption (argument : String)
  | missingValue (name : String)
  | emptyValue (name : String)
  | repeated (name : String)
  | missing (what : String)
  | unexpected (operand : String)
  /-- A variable is not given as a name and a value. -/
  | badBinding (argument : String)
deriving DecidableEq, Repr

/-- The wording of why a command line names no task. -/
def UsageError.message : UsageError → String
  | noTask => "a task is required: render, parse, query or defaults"
  | unknownTask name => s!"unrecognized task '{name}'"
  | unknownOption argument => s!"unexpected option '{argument}'"
  | missingValue name => s!"a value is required for '--{name}'"
  | emptyValue name => s!"the value of '--{name}' is empty"
  | repeated name => s!"'--{name}' is given more than once"
  | missing what => s!"{what} is required"
  | unexpected operand => s!"unexpected argument '{operand}'"
  | badBinding argument => s!"expected name=value, got '{argument}'"

/-! ## Taking arguments apart -/

/-- Which options there are. -/
structure Grammar where
  /-- The options that take a value. -/
  valued : List String := []
  /-- The options that take none. -/
  flags : List String := []
  /-- Whether the first operand ends the options. -/
  leading : Bool := false

/-- Arguments taken apart. -/
structure Split where
  values : List (String × String) := []
  flags : List String := []
  operands : List String := []

namespace Split

/-- Puts an option with its value in front. -/
def addValue (name value : String) (s : Split) : Split :=
  { s with values := (name, value) :: s.values }

/-- Puts an option without a value in front. -/
def addFlag (name : String) (s : Split) : Split := { s with flags := name :: s.flags }

/-- Puts an operand in front. -/
def addOperand (operand : String) (s : Split) : Split :=
  { s with operands := operand :: s.operands }

/-- A text cut at its first equals sign. -/
def cutAtEquals? : List Char → Option (List Char × List Char)
  | [] => none
  | c :: rest =>
    if c = '=' then some ([], rest) else (cutAtEquals? rest).map fun (a, b) => (c :: a, b)

/-- Whether an argument looks like an option. -/
def isOption (argument : String) : Bool := argument.startsWith "-" && argument != "-"

/-- The name of a long option, with the value that is joined to it. -/
def longOption? (argument : String) : Option (String × Option String) :=
  match argument.toList with
  | '-' :: '-' :: body =>
    match cutAtEquals? body with
    | some (name, value) => some (String.ofList name, some (String.ofList value))
    | none => some (String.ofList body, none)
  | _ => none

/-- Takes arguments apart, behind an option that still waits for its value, if any. -/
def ofArgumentsAfter (g : Grammar) : Option String → List String → Except UsageError Split
  | none, [] => .ok {}
  | some name, [] => .error (.missingValue name)
  | some name, argument :: rest =>
    if isOption argument then .error (.missingValue name)
    else (ofArgumentsAfter g none rest).map (addValue name argument)
  | none, argument :: rest =>
    if argument = "--" then
      if g.leading then .error .noTask else .ok { operands := rest }
    else if !isOption argument then
      if g.leading then .ok { operands := argument :: rest }
      else (ofArgumentsAfter g none rest).map (addOperand argument)
    else
      match longOption? argument with
      | none => .error (.unknownOption argument)
      | some (name, value) =>
        if g.valued.contains name then
          match value with
          | some value => (ofArgumentsAfter g none rest).map (addValue name value)
          | none => ofArgumentsAfter g (some name) rest
        else if g.flags.contains name && value.isNone then
          (ofArgumentsAfter g none rest).map (addFlag name)
        else .error (.unknownOption argument)

/-- Takes arguments apart. -/
def ofArguments (g : Grammar) (arguments : List String) : Except UsageError Split :=
  ofArgumentsAfter g none arguments

/-- All values of an option. -/
def allValues (s : Split) (name : String) : List String :=
  (s.values.filter fun e => e.1 == name).map (·.2)

/-- The value of an option that may be given once. -/
def value? (s : Split) (name : String) : Except UsageError (Option String) :=
  match s.allValues name with
  | [] => .ok none
  | [value] => .ok (some value)
  | _ => .error (.repeated name)

/-- The value of an option that has to be given once. -/
def value (s : Split) (name : String) : Except UsageError String := do
  match ← s.value? name with
  | some value => .ok value
  | none => .error (.missing ("--" ++ name))

/-- Whether an option that may be given once is given. -/
def flag (s : Split) (name : String) : Except UsageError Bool :=
  match s.flags.filter (· == name) with
  | [] => .ok false
  | [_] => .ok true
  | _ => .error (.repeated name)

/-- The only operand. -/
def operand (s : Split) : Except UsageError String :=
  match s.operands with
  | [] => .error (.missing "an input")
  | [operand] => .ok operand
  | _ :: operand :: _ => .error (.unexpected operand)

/-- Checks that there is no operand. -/
def noOperand (s : Split) : Except UsageError Unit :=
  match s.operands with
  | [] => .ok ()
  | operand :: _ => .error (.unexpected operand)

/-- The settings file, which has to have a name. -/
def settings (s : Split) : Except UsageError (Option String) := do
  match ← s.value? "config" with
  | some "" => .error (.emptyValue "config")
  | path => .ok path

end Split

/-! ## Putting an invocation together -/

namespace Task

/-- The options of a task, by its name. -/
def grammar? : String → Option Grammar
  | "render" => some { valued := ["config"], flags := ["validate"] }
  | "parse" => some { valued := ["config", "var"] }
  | "query" => some { valued := ["config"] }
  | "defaults" => some { valued := ["config", "template", "response"] }
  | _ => none

/-- Reads a variable: its name ends at the first equals sign. -/
def binding (argument : String) : Except UsageError (String × String) :=
  match Split.cutAtEquals? argument.toList with
  | some (name, value) => .ok (String.ofList name, String.ofList value)
  | none => .error (.badBinding argument)

/-- The task of a name, by its arguments. -/
def ofSplit (name : String) (s : Split) : Except UsageError Task :=
  match name with
  | "render" => do return render (← s.operand) (← s.flag "validate")
  | "parse" => do
    return parse (← s.operand) (Table.ofList (← (s.allValues "var").mapM binding))
  | "query" => do return query (← s.operand)
  | "defaults" => do
    s.noOperand
    return defaults (← s.value "template") (← s.value "response")
  | _ => .error (.unknownTask name)

end Task

/-- Reads a command line. -/
def Invocation.ofArguments (arguments : List String) : Except UsageError Invocation := do
  let before ← Split.ofArguments { valued := ["config"], leading := true } arguments
  match before.operands with
  | [] => .error .noTask
  | name :: rest =>
    match Task.grammar? name with
    | none => .error (.unknownTask name)
    | some grammar =>
      let behind ← Split.ofArguments grammar rest
      let outer ← before.settings
      let inner ← behind.settings
      return { settings := inner.or outer, task := ← Task.ofSplit name behind }

end Dql.CommandLine
