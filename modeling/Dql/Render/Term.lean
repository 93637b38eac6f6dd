import Dql.Render.Piece

/-!
# The terms of query text

How attributes, languages, variables and arguments are written, wherever they
occur. An attribute that is an absolute URI stands in angle brackets. A literal
argument is quoted; the arguments of `regexp` are a pattern between slashes and
its flags.
-/

namespace Dql.Render

open Phrase

/-- The languages of an attribute, behind an at sign. -/
def languagesPhrase (langs : List String) : Phrase :=
  if langs.isEmpty then [] else mark "@" ++ own (Text.join ":" langs)

/-- The language of a call's attribute. -/
def languagePhrase (lang : String) : Phrase := unlessEmpty lang fun l => mark "@" ++ own l

/-- A variable by its name. -/
def referenceTerm (u : VariableUse) : Term := .name (.reference u.name)

/-- A variable that is consumed: one of nodes by its name, any other by its value. -/
def useTerm (u : VariableUse) : Term :=
  match u.kind with
  | .nodes => referenceTerm u
  | .values | .predicates => .values [.reference u.name]

/-- A pattern with its slashes escaped. -/
def escapeSlashes (cs : List Char) : List Char :=
  cs.flatMap fun c => if c = '/' then ['\\', '/'] else [c]

/-- A pattern between slashes, and the flags behind it. -/
def pattern (body : String) (flags : List String) : String :=
  "/" ++ String.ofList (escapeSlashes body.toList) ++ "/" ++ Text.join "" flags

/-- An argument: the value of a variable, a variable of the request or of the
call as it is, else a quoted literal. -/
def argumentTerm (ofVariable : Bool) (a : Argument) : Term :=
  if a.isValueVariable then .values [.reference a.value]
  else if a.isRequestVariable || ofVariable then .own a.value
  else .literal a.value

/-- The arguments of a call; none if it has none. An empty literal is an argument. -/
def argumentTerms? (c : Call) : Option (List Term) :=
  match c.arguments with
  | [] => none
  | first :: rest =>
    if c.name = "regexp" then some [.own (pattern first.value (rest.map (·.value)))]
    else some ((first :: rest).map (argumentTerm c.isValueVariable))

end Dql.Render
