import Dql.Shell.Arithmetic
import Dql.Shell.Field
import Dql.Shell.Glob

/-!
# Expansion of words

When a word is used its parameters, commands and expressions are replaced. What comes of it
is a list of segments (`Expansion.parts`), which depends on what the word is for: arguments are
split into fields, and these may be patterns of paths; a value is kept in one piece; a pattern
of a selection keeps apart what is quoted. The words of parameters are only expanded where
they are used, and so have no effect elsewhere.

How a command is run for its output is a parameter here.
-/

namespace Dql.Shell

/-- What a word is expanded for. -/
structure Purpose where
  /-- Whether the word is split into fields. -/
  fields : Bool := false
  /-- Whether the word is between double quotes. -/
  quoted : Bool := false
  /-- Whether the word is that of a parameter, where plain characters are split too. -/
  inner : Bool := false
  /-- Whether a tilde at the start is a folder. -/
  tilde : Bool := false
  /-- Whether the word assigns, so that tildes behind an equals sign and colons count too. -/
  assigns : Bool := false

/-- Where the expansion of a word has got to. -/
structure Expansion where
  /-- The segments, in reverse. -/
  segments : List Segment := []
  quoted : Bool := false
  /-- Whether a tilde counts here. -/
  tilde : Bool := false
  /-- Whether an equals sign is behind. -/
  assigned : Bool := false
  /-- The characters that are to be passed over. -/
  skipped : Nat := 0

namespace Expansion

/-- Adds a segment. -/
def add (x : Expansion) (s : Segment) : Expansion := { x with segments := s :: x.segments }

/-- Adds bytes that are not split. -/
def addBytes (x : Expansion) (quoted : Bool) (bytes : Bytes) : Expansion :=
  { x with segments := bytes.foldl (fun s c => .char c quoted :: s) x.segments }

/-- Adds a region, or what stands for it where quotes keep it together. -/
def addRegion (x : Expansion) (quoted : Bool) (bytes : Bytes) : Expansion :=
  if quoted then x.addBytes true bytes
  else x.add (.region false (bytes.map fun c => (c, false)))

/-- What separates arguments that are joined. -/
def joint (s : Interpreter) : Bytes :=
  match s.value? (say "IFS") with
  | none => [' ']
  | some [] => []
  | some (c :: _) => [c]

/-- The letters of the options, in the order in which they are shown. -/
def optionLetters : List Char := "ubaCEVvxsnmiIfe".toList

/-- The arguments, joined as their purpose asks for. -/
def allArgumentsOf (s : Interpreter) (fields quoted each : Bool) : Bytes :=
  let between := if fields && (if quoted then each else (s.value? (say "IFS")).isSome)
    then [argumentBreak] else joint s
  Bytes.join between s.arguments

/-- The value of a parameter; none if it is not set. -/
def value? (s : Interpreter) (fields quoted : Bool) (name : Bytes) : Option Bytes :=
  match name with
  | ['$'] => some (.ofNat s.process)
  | ['?'] => some (.ofNat s.status)
  | ['#'] => some (.ofNat s.arguments.length)
  | ['!'] => s.lastBackground.map .ofNat
  | ['-'] => some (optionLetters.filter s.has)
  | ['@'] => some (allArgumentsOf s fields quoted true)
  | ['*'] => some (allArgumentsOf s fields quoted false)
  | _ =>
    match number? name with
    | some 0 => some s.name
    | some n => s.arguments[n - 1]?
    | none => s.value? name

/-- What a pattern sees of a value: all up to a break between arguments. -/
def upToBreak (value : Bytes) : Bytes := value.takeWhile (· != argumentBreak)

/-- A value without the front that a pattern matches, the shortest or the longest one. -/
def trimFront (longest : Bool) (p : Pattern) (value : Bytes) : Bytes :=
  let lengths := List.range (value.length + 1)
  let lengths := if longest then lengths.reverse else lengths.take ((upToBreak value).length + 1)
  match lengths.find? fun n => p.admits (upToBreak (value.take n)) with
  | some n => value.drop n
  | none => value

/-- A value without the end that a pattern matches, the shortest or the longest one. -/
def trimEnd (longest : Bool) (p : Pattern) (value : Bytes) : Bytes :=
  let lengths := List.range (value.length + 1)
  let lengths := if longest then lengths.take ((upToBreak value).length + 1) else lengths.reverse
  match lengths.find? fun n => p.admits (upToBreak (value.drop n)) with
  | some n => value.take n
  | none => value

/-- The folder of a user, by the name behind a tilde. -/
def home? (s : Interpreter) (user : Bytes) : Option Bytes :=
  if user.isEmpty then s.value? (say "HOME")
  else if user = say "root" then some (say "/root")
  else none

/-- The name behind a tilde; none if a part of it is quoted or replaced. -/
def userName? (assigns : Bool) : List Part → Option Bytes
  | [] => some []
  | .char c :: rest =>
    if c = '/' ∨ (assigns ∧ c = ':') then some [] else (userName? assigns rest).map (c :: ·)
  | _ => none

end Expansion

/-- How a command is run for its output. -/
abbrev Substitution := Option Node → Exec Bytes

namespace Expansion

/-- The message about a parameter that is not set. -/
def unsetMessage (null : Bool) : Bytes :=
  say (if null then "parameter not set or null" else "parameter not set")

/-- The characters of segments without their quotes. -/
def text (x : Expansion) : Bytes := (Segment.joined x.segments.reverse).map (·.1)

/-- Adds the value of a parameter. -/
def addValue (x : Expansion) (s : Interpreter) (quoted : Bool) (name value : Bytes) : Expansion :=
  if quoted && name == ['@'] && !s.arguments.isEmpty then
    x.add (.region true (value.map fun c => (c, true)))
  else x.addRegion quoted value

/-- A character of a word. -/
def char (p : Purpose) (x : Expansion) (c : Char) : Exec Expansion := do
  if 0 < x.skipped then return { x with skipped := x.skipped - 1 }
  let tilde := p.assigns && (c == ':' || (c == '=' && !x.assigned))
  let x := { x with tilde := tilde, assigned := x.assigned || (p.assigns && c == '=') }
  return x.add (if p.inner && !p.quoted && !x.quoted then .open c else .char c false)

/-- A tilde that may be a folder, with what follows it. -/
def tildeStep (p : Purpose) (x : Expansion) (rest : List Part) : Exec Expansion := do
  match userName? p.assigns rest with
  | none => char p x '~'
  | some user =>
    match home? (← Exec.shell) user with
    | none => char p x '~'
    | some home =>
      return { x.addBytes true home with skipped := user.length, tilde := false }

mutual

/-- Expands parts of a word. All arguments between quotes of their own are no field if
there are none. -/
def parts (out : Substitution) (p : Purpose) (x : Expansion) : List Part → Exec Expansion
  | [] => return x
  | .char c :: rest => do
    if c = '~' ∧ x.tilde ∧ x.skipped = 0 then parts out p (← tildeStep p x rest) rest
    else parts out p (← char p x c) rest
  | .quote :: .parameter ['@'] .value word :: .quote :: rest => do
    let arguments : Part := .parameter ['@'] .value word
    let x := { x with tilde := false }
    if x.quoted then parts out p ((← part out p (x.add .mark) arguments).add .mark) rest
    else parts out p (← part out { p with quoted := true } x arguments) rest
  | .quote :: rest => parts out p { x.add .mark with quoted := !x.quoted, tilde := false } rest
  | first :: rest => do
    let x ← part out { p with quoted := p.quoted || x.quoted } x first
    parts out p { x with tilde := false } rest

/-- Expands a part of a word that is no character in it. -/
def part (out : Substitution) (p : Purpose) (x : Expansion) : Part → Exec Expansion
  | .char c => return x.addBytes false [c]
  | .escaped c => return x.addBytes true [c]
  | .quote => return x.add .mark
  | .command body => do
    let bytes ← out body
    return x.addRegion p.quoted (bytes.filter (· != argumentBreak))
  | .arithmetic expression => do
    let text := (← parts out {} {} expression).text
    let n ← Arithmetic.evaluate text
    return x.addRegion p.quoted (.ofInt n.toInt)
  | .parameter name rule word => do
    let s ← Exec.shell
    let found := value? s p.fields p.quoted name
    let set : Bool → Option Bytes := fun null =>
      found.bind fun value => if null && value.isEmpty then none else some value
    let use : Exec Expansion := do
      let inner : Purpose := { p with inner := true, tilde := true }
      let done ← parts out inner { x with
        quoted := false, tilde := true, skipped := 0 } word
      return { x with segments := done.segments }
    let read : Exec Bytes := do return (← parts out {} { tilde := true } word).text
    if found.isNone && s.has 'u' && rule.needsValue then
      Exec.fail (name ++ say ": " ++ unsetMessage false)
    match rule with
    | .unknown => Exec.fail (say "Bad substitution")
    | .value =>
      match found with
      | some value => return x.addValue s p.quoted name value
      | none => return x
    | .length => return x.addValue s p.quoted name (.ofNat (found.getD []).length)
    | .otherwise null =>
      match set null with
      | some value => return x.addValue s p.quoted name value
      | none => use
    | .instead null =>
      match set null with
      | some _ => use
      | none => return x.addValue s p.quoted name []
    | .assign null =>
      match set null with
      | some value => return x.addValue s p.quoted name value
      | none =>
        let value ← read
        Exec.setVariable name value
        let s ← Exec.shell
        return x.addValue s p.quoted name ((value? s p.fields p.quoted name).getD [])
    | .demand null =>
      match set null with
      | some value => return x.addValue s p.quoted name value
      | none =>
        let message ← if word.isEmpty then pure (unsetMessage null) else read
        Exec.fail (name ++ say ": " ++ message)
    | .trim front longest =>
      match found with
      | none => return x
      | some value =>
        let pattern := Segment.joined (← parts out {} { tilde := true } word).segments.reverse
        return x.addValue s p.quoted name
          ((if front then trimFront else trimEnd) longest pattern value)

end

/-- The segments that a word becomes. -/
def ofWord (out : Substitution) (p : Purpose) (w : Word) : Exec (List Segment) := do
  return (← parts out p { tilde := p.tilde } w).segments.reverse

/-- The paths that a field stands for, or the field itself. -/
def paths (f : Field) : Exec (List Bytes) := do
  let s ← Exec.shell
  let files := (← Exec.world).files
  let found := if s.has 'f' then [] else Glob.paths files s.place f.content
  return if found.isEmpty then [f.content.map (·.1)] else found

/-- The arguments that a word becomes. -/
def arguments (out : Substitution) (w : Word) : Exec (List Bytes) := do
  let found ← ofWord out { fields := true, tilde := true } w
  let fields := splitFields (← Exec.shell).separators none found
  return (← fields.mapM paths).flatten

/-- The text that a word becomes. -/
def bytes (out : Substitution) (p : Purpose) (w : Word) : Exec Bytes := do
  return (Segment.joined (← ofWord out p w)).map (·.1)

/-- The pattern that a word becomes. -/
def pattern (out : Substitution) (w : Word) : Exec Pattern := do
  return Segment.joined (← ofWord out { tilde := true } w)

end Expansion

end Dql.Shell
