import Dql.Shell.Builtin.Basic
import Dql.Shell.Field

/-!
# Builtins on variables, arguments and options

`export`, `readonly`, `unset` and `local` act on variables, `set` on options and arguments,
`shift` on arguments. `read` sets variables to the fields of a line, and `getopts` one to the
next option among arguments.
-/

namespace Dql.Shell.Builtin

/-- A list of variables with a word in front of each, in order. -/
def listed (s : Interpreter) (front : Bytes) (test : Variable → Bool) : Bytes :=
  let chosen := (s.bindings.filter fun v => test v.2).mergeSort fun a b => Bytes.le a.1 b.1
  let front := if front.isEmpty then [] else front ++ [' ']
  chosen.flatMap fun v => line (front ++ v.1 ++ match v.2.value with
    | some value => '=' :: Quotation.shown value
    | none => [])

/-- Marks variables, which may get a value at the same time. -/
def markVariable (mark : Variable → Variable) (argument : Bytes) : Exec Unit := do
  let name := argument.takeWhile (· != '=')
  if argument.contains '=' then
    Exec.setVariable name (argument.drop (name.length + 1))
  else if ((← Exec.shell).find? name).isNone then Exec.putVariable name none
  Exec.modifyShell fun s => s.put name ((s.find? name).map mark)

/-- Lists variables, or marks them. -/
def marking (command : String) (test : Variable → Bool) (mark : Variable → Variable)
    (args : List Bytes) : Exec Outcome := do
  let (options, names) ← options "p" args
  if !options.isEmpty || names.isEmpty then
    return { output := listed (← Exec.shell) (say command) test }
  names.forM (markVariable mark)
  return {}

/-- Gives variables to the programs that are started. -/
def exportVariables : List Bytes → Exec Outcome :=
  marking "export" Variable.exported fun v => { v with exported := true }

/-- Keeps variables from changing. -/
def readonly : List Bytes → Exec Outcome :=
  marking "readonly" Variable.fixed fun v => { v with fixed := true }

/-- Forgets variables, or functions. -/
def unset (args : List Bytes) : Exec Outcome := do
  let (options, names) ← options "vf" args
  if (options.getLast?.map (·.1)) = some 'f' then
    Exec.modifyShell fun s =>
      { s with functions := s.functions.filter fun f => !names.contains f.1 }
  else
    for name in names do
      Exec.unsetVariable name
      if name = say "OPTIND" then Exec.fail (say "Illegal number: ")
  return {}

/-- Keeps variables to be put back at the end of the function, and may set them. -/
def localVariables (args : List Bytes) : Exec Outcome := do
  if (← Exec.shell).saved.isEmpty then Exec.fail (say "not in a function")
  for argument in args do
    let name := argument.takeWhile (· != '=')
    if argument = ['-'] then
      Exec.modifyShell fun s =>
        match s.saved with
        | [] => s
        | first :: rest => { s with saved := (.options s.options :: first) :: rest }
    else
      Exec.saveVariable name
      if argument.contains '=' then Exec.setVariable name (argument.drop (name.length + 1))
      else if ((← Exec.shell).find? name).isNone then
        if !isName name then Exec.fail (name ++ say ": bad variable name")
  return {}

/-! ## Options and arguments -/

/-- The options by name, in the order in which they are listed. Those without a letter have
one that cannot be written. -/
def optionNames : List (String × Char) := [
  ("errexit", 'e'), ("noglob", 'f'), ("ignoreeof", 'I'), ("interactive", 'i'), ("monitor", 'm'),
  ("noexec", 'n'), ("stdin", 's'), ("xtrace", 'x'), ("verbose", 'v'), ("vi", 'V'),
  ("emacs", 'E'), ("noclobber", 'C'), ("allexport", 'a'), ("notify", 'b'), ("nounset", 'u'),
  ("privileged", 'p'), ("nolog", '\x01'), ("debug", '\x02')]

/-- The list of the options; `all` says that it is made while the options of a new shell are
read, none of which is off for certain. -/
def optionList (s : Interpreter) (plain all : Bool) : Bytes :=
  if plain then
    line (say "Current option settings") ++ optionNames.flatMap fun o =>
      line (widened o.1 ++ say (if all || s.has o.2 then "on" else "off"))
  else
    optionNames.flatMap fun o =>
      line (say (if all || s.has o.2 then "set -o " else "set +o ") ++ say o.1)
where
  /-- A name with blanks up to the next column. -/
  widened (name : String) : Bytes := say name ++ List.replicate (16 - name.length) ' '

/-- Turns an option on or off by its letter. -/
def setLetter (letter : Char) (on : Bool) : Exec Unit := do
  if !optionNames.any fun o => o.2 == letter then Exec.fail (say "Illegal option -" ++ [letter])
  if letter = 'm' && on then
    Exec.complain (say "can't access tty; job control turned off")
  else
    Exec.modifyShell fun s =>
      let s := if on && letter == 'V' then s.setOption 'E' false
        else if on && letter == 'E' then s.setOption 'V' false
        else s
      s.setOption letter on

/-- Turns an option on or off by its name. -/
def setName (name : Bytes) (on : Bool) : Exec Unit := do
  match optionNames.find? fun o => o.1.toList == name with
  | some o => setLetter o.2 on
  | none => Exec.fail (say "Illegal option -o " ++ name)

/-- The settings that have been read from arguments. -/
structure SettingArguments where
  rest : List Bytes
  /-- Whether there were marks that end settings, so that no arguments are left. -/
  ended : Bool := false
  /-- Whether a script is to follow. -/
  script : Bool := false
  output : Bytes := []

/-- Reads the letters of an argument; `start` says that a shell is being started. -/
def settingLetters (start on : Bool) (s : SettingArguments) : Bytes → Exec SettingArguments
  | [] => return s
  | c :: more => do
    if c = 'c' ∧ start then settingLetters start on { s with script := true } more
    else if c = 'l' ∧ start then settingLetters start on s more
    else if c = 'o' then
      match s.rest with
      | [] =>
        let list := optionList (← Exec.shell) on start
        settingLetters start on { s with output := s.output ++ list } more
      | name :: rest =>
        setName name on
        settingLetters start on { s with rest := rest } more
    else
      setLetter c on
      settingLetters start on s more

/-- Reads settings from so many arguments at most. -/
def settings (start : Bool) : Nat → SettingArguments → Exec SettingArguments
  | 0, s => return s
  | n + 1, s => do
    match s.rest with
    | ['-'] :: rest =>
      if !start then Exec.modifyShell fun sh => (sh.setOption 'x' false).setOption 'v' false
      return { s with rest := rest }
    | ['-', '-'] :: rest => return { s with rest := rest, ended := true }
    | ('-' :: letters) :: rest =>
      settings start n (← settingLetters start true { s with rest := rest } letters)
    | ('+' :: letters) :: rest =>
      settings start n (← settingLetters start false { s with rest := rest } letters)
    | _ => return s

/-- Gives a shell other arguments. -/
def setArguments (args : List Bytes) : Exec Unit := Exec.modifyShell fun s =>
  { s with arguments := args, optionIndex := 1, optionOffset := none }

/-- Changes options and arguments, or lists variables. -/
def set (args : List Bytes) : Exec Outcome := do
  if args.isEmpty then
    return { output := listed (← Exec.shell) [] fun v => v.value.isSome }
  let found ← settings false args.length { rest := args }
  if found.ended || !found.rest.isEmpty then setArguments found.rest
  return { output := found.output }

/-- Leaves arguments out. -/
def shift (args : List Bytes) : Exec Outcome := do
  let n ← match args with
    | [] => pure 1
    | n :: _ => Exec.number n
  let s ← Exec.shell
  if s.arguments.length < n then Exec.fail (say "can't shift that many")
  setArguments (s.arguments.drop n)
  return {}

/-- What has been read of the next option. -/
structure NextOption where
  /-- The letter, or what stands for none. -/
  letter : Char
  /-- What is left of its argument. -/
  rest : Bytes := []
  /-- The number of the next argument. -/
  index : Nat
  found : Bool := true
  /-- The value that goes with it. -/
  value : Option Bytes := some []
  complaint : Option Bytes := none

/-- The next option among arguments; none at their end. -/
def nextOption (known : Bytes) (args : List Bytes) (index : Nat) (offset : Option Nat) :
    NextOption :=
  let quiet := known.head? == some ':'
  let begun := match offset with
    | some n => if index ≤ 1 then [] else ((args[index - 2]?).getD []).drop n
    | none => []
  let start : Except Nat (Bytes × Nat) :=
    if !begun.isEmpty then .ok (begun, index)
    else
      match args[index - 1]? with
      | some ['-', '-'] => .error (index + 1)
      | some ('-' :: c :: more) => .ok (c :: more, index + 1)
      | _ => .error index
  match start with
  | .error index => { letter := '?', index := index, found := false, value := none }
  | .ok ([], index) => { letter := '?', index := index, found := false, value := none }
  | .ok (c :: more, index) =>
    match letter c known with
    | .unknown =>
      if quiet then { letter := '?', rest := more, index := index, value := some [c] }
      else { letter := '?', rest := more, index := index, value := none
             complaint := some (say "Illegal option -" ++ [c]) }
    | .plain => { letter := c, rest := more, index := index }
    | .withArgument =>
      match more, args[index - 1]? with
      | [], some argument => { letter := c, index := index + 1, value := some argument }
      | [], none =>
        if quiet then { letter := ':', index := index, value := some [c] }
        else { letter := '?', index := index, value := none
               complaint := some (say "No arg for -" ++ c :: say " option") }
      | more, _ => { letter := c, index := index, value := some more }

/-- Sets a variable to the next option among arguments. -/
def getopts (args : List Bytes) : Exec Outcome := do
  match args with
  | known :: name :: given =>
    let s ← Exec.shell
    let words := if given.isEmpty then s.arguments else given
    let (index, offset) :=
      if words.length + 1 < s.optionIndex then (1, none) else (s.optionIndex, s.optionOffset)
    let next := nextOption known words index offset
    Exec.modifyShell fun s => { s with optionIndex := 1, optionOffset := none }
    if let some message := next.complaint then note message
    if next.found then
      match next.value with
      | some value => Exec.setVariable (say "OPTARG") value
      | none => Exec.unsetVariable (say "OPTARG")
    Exec.putVariable (say "OPTIND") (some (.ofNat next.index))
    Exec.setVariable name [next.letter]
    let length := ((words[next.index - 2]?).getD []).length
    Exec.modifyShell fun s => { s with
      optionIndex := next.index
      optionOffset :=
        if next.rest.isEmpty then none else some (length - next.rest.length) }
    return { status := if next.found then 0 else 1 }
  | _ => Exec.fail (say "Usage: getopts optstring var [arg...]")

/-! ## Reading lines -/

/-- Reads a line from bytes: its segments, in reverse, how many bytes it takes, and whether it
is complete. -/
def readLine (raw : Bool) (segments : List Segment) (count : Nat) :
    Bytes → List Segment × Nat × Bool
  | [] => (segments, count, false)
  | '\n' :: _ => (segments, count + 1, true)
  | '\x00' :: rest => readLine raw segments (count + 1) rest
  | '\\' :: rest =>
    if raw then readLine raw (.open '\\' :: segments) (count + 1) rest
    else
      match rest with
      | [] => (segments, count + 1, false)
      | '\n' :: rest => readLine raw (.region false [] :: segments) (count + 2) rest
      | c :: rest =>
        readLine raw (.region false [] :: .char c true :: segments) (count + 2) rest
  | c :: rest => readLine raw (.open c :: segments) (count + 1) rest

/-- Sets variables to the fields of a line. -/
def read (args : List Bytes) : Exec Outcome := do
  let (options, names) ← options "p:r" args
  let raw := options.any fun o => o.1 == 'r'
  if names.isEmpty then Exec.fail (say "arg count")
  let s ← Exec.shell
  let w ← Exec.world
  let available : Bytes := match (s.opening? 0).map w.available with
    | some (.ok bytes) => Bytes.ofArray bytes
    | _ => []
  let (segments, count, complete) := readLine raw [] 0 available
  if let some n := s.opening? 0 then Exec.modifyWorld fun w => w.advance n count
  let fields := splitFields s.separators (some names.length) segments.reverse
  for (name, n) in names.zipIdx do
    Exec.setVariable name (((fields[n]?).map fun f => f.content.map (·.1)).getD [])
  return { status := if complete then 0 else 1 }

end Dql.Shell.Builtin
