import Dql.Render.Error
import Dql.Render.Term

/-!
# The text of filters

A leaf of a filter is a call, and which of its fields are written depends on
which are there: with arguments, they follow the attribute or the variables that
the call uses; without, the call lists identifiers, an attribute or variables. A
connective stands between its operands in brackets, but `not` and `eq` stand in
front of them.

The text of a filter is the same wherever it occurs; `node` is the name that
faults are reported under.
-/

namespace Dql

open Phrase

/-- A call as the leaf of a filter. -/
def Call.leafPhrase (node : String) (c : Call) : Except RenderError Phrase :=
  let used := terms (c.uses.map Render.useTerm)
  match Render.argumentTerms? c with
  | none =>
    if !c.ids.isEmpty then
      .ok (application (own c.name)
        (terms (c.ids.map .identifier ++ c.uses.map Render.referenceTerm)))
    else if !c.attr.isEmpty then
      .ok (application (own c.name) (predicate .subject c.attr ++ Render.languagePhrase c.lang))
    else if !c.uses.isEmpty then .ok (application (own c.name) used)
    else .error (.emptyFunction node c.name)
  | some arguments =>
    if !c.attr.isEmpty then
      let attr :=
        if c.isValueVariable then values [.predicate .subject c.attr]
        else predicate .subject c.attr
      if c.isCount then
        .ok (application (own c.name)
          (application (mark "count") attr ++ mark ", " ++ terms arguments))
      else
        .ok (application (own c.name)
          (attr ++ Render.languagePhrase c.lang ++ mark ", " ++ terms arguments))
    else if !c.uses.isEmpty then
      .ok (application (own c.name)
        (used ++ mark ", " ++ terms (c.arguments.map fun a => .own a.value)))
    else .error (.emptyFunction node c.name)

/-- The connectives that stand in front of their operands. -/
def Filter.prefixConnectives : List String := ["not", "eq"]

/-- A connective with its operands. -/
def Filter.connectPhrase (op : String) (operands : List Phrase) : Phrase :=
  if Filter.prefixConnectives.contains op then
    own op ++ mark " (" ++ listed operands ++ mark ")"
  else mark "(" ++ joined (mark " " ++ own op ++ mark " ") operands ++ mark ")"

mutual

/-- A filter. -/
def Filter.phrase (node : String) : Filter → Except RenderError Phrase
  | ⟨op, operands, call⟩ =>
    match call with
    | some call =>
      if op.isEmpty then call.leafPhrase node else .error (.ambiguousFilter node op)
    | none =>
      if op.isEmpty then .error (.emptyConnective node "")
      else if operands.isEmpty then .error (.emptyConnective node op)
      else (Filter.phrases node operands).map (Filter.connectPhrase op)

/-- Filters, one by one; the first fault decides. -/
def Filter.phrases (node : String) :
    List Filter → Except RenderError (List Phrase)
  | [] => .ok []
  | f :: rest =>
    match f.phrase node with
    | .error e => .error e
    | .ok t => (Filter.phrases node rest).map (t :: ·)

end

/-- The text of a filter. -/
def Filter.render (node : String) (f : Filter) : Except RenderError String :=
  (f.phrase node).map written

end Dql
