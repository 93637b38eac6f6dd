import Dql.Query.Scope
import Dql.Render.Facets
import Dql.Render.Math
import Dql.Text.Layout

/-!
# The text of a block

A block is written one clause a line. A root opens a block of its own with the
function that finds its nodes; the nodes below it are written one level deeper,
each as one line, and a node with children opens a block for them unless it is
internal. What a node's line says depends on its clause: the function, the
expression, the count, the value of a variable, or the attribute; behind that
come the directives, always in the same order.

Before anything is written, all variables are checked to be declared. Otherwise
the first fault in the order of the document is reported. The lines are brought
into normal layout at the end.
-/

namespace Dql

open Phrase

namespace Clause

variable (c : Clause)

/-! ## Parts of a line -/

/-- The variable that the results are bound to. -/
def bindingPhrase : Phrase := unlessEmpty c.variableName fun v => own v ++ mark " as "

/-- The alias in front of what it renames. -/
def aliasPhrase : Phrase := named c.aliasName

/-- The arguments of a node, by key. -/
def argumentPhrases : List Phrase := c.arguments.entries.map fun e => entry e.1 e.2

/-- An ordering: by the value of a variable that the node uses, or by an attribute. -/
def orderPhrase (kinds : Table String VariableKind) (o : Order) : Phrase :=
  match kinds.find? o.attr with
  | some kind => direction o.descending ++ values [.ordered o.attr kind]
  | none =>
    direction o.descending ++ predicate .ordering o.attr ++ Render.languagesPhrase o.langs

/-- The orderings of a node. -/
def orderPhrases : List Phrase := c.orders.map (orderPhrase c.useKinds)

/-- Arguments and orderings in brackets; nothing if there are none. -/
def parameterPhrase : Phrase :=
  let parts := c.argumentPhrases ++ c.orderPhrases
  if parts.isEmpty then [] else mark "(" ++ listed parts ++ mark ")"

/-- What an attribute is expanded to: the variables that the node uses, or a name. -/
def expansionPhrase : Phrase :=
  if c.expand.isEmpty then []
  else if c.uses.isEmpty then mark "(" ++ own c.expand ++ mark ")"
  else mark "(" ++ terms (c.uses.map Render.useTerm) ++ mark ")"

/-- The attribute with its languages. -/
def attributePhrase : Phrase := predicate .subject c.attr ++ Render.languagesPhrase c.langs

/-! ## What a node is about -/

/-- The arguments of the function that generates a node. Identifiers on the node
count only if the call has no arguments. -/
def functionTerms (call : Call) : List Term :=
  if !c.ids.isEmpty && call.arguments.isEmpty then
    c.ids.map .identifier ++ call.uses.map Render.referenceTerm
  else
    match Render.argumentTerms? call with
    | some arguments => arguments
    | none => call.uses.map (if c.attr.isEmpty then Render.useTerm else Render.referenceTerm)

/-- The text of the arguments of the function that generates a node. -/
def functionArguments (call : Call) : String := (terms (c.functionTerms call)).written

/-- The function that generates a node: over the node's attribute if it has one,
else over the attribute of the call, else over the arguments alone. -/
def functionPhrase (call : Call) : Except RenderError Phrase :=
  if call.name.isEmpty then .error (.emptyFunction c.label "")
  else
    let arguments := c.functionTerms call
    if !c.attr.isEmpty then
      if (c.functionArguments call).isEmpty then
        .ok (application (own call.name) c.attributePhrase)
      else
        .ok (application (own call.name) [.applied (.predicate .applied c.attr) arguments])
    else if !call.attr.isEmpty then
      if call.isCount then
        .ok (application (own call.name)
          (application (mark "count") (predicate .subject call.attr) ++ mark ", " ++
            terms arguments))
      else
        let attr := predicate .subject call.attr ++ Render.languagePhrase call.lang
        if (c.functionArguments call).isEmpty then .ok (application (own call.name) attr)
        else .ok (application (own call.name) (attr ++ mark ", " ++ terms arguments))
    else .ok (application (own call.name) (terms arguments))

/-- The check of a password, its one argument always a literal. -/
def passwordPhrase (call : Call) : Except RenderError Phrase :=
  if call.attr.isEmpty then .error (.emptyFunction c.label call.name)
  else
    match call.arguments with
    | [password] =>
      .ok (application (mark "checkpwd")
        (predicate .subject call.attr ++ mark ", " ++ terms [.literal password.value]))
    | other => .error (.checkPasswordArity c.label other.length)

/-- The filter directive; none if the filter says nothing. -/
def filterPhrase : Except RenderError (Option Phrase) :=
  match c.filter with
  | none => .ok none
  | some f =>
    if f.isEmpty then .ok none
    else (f.phrase c.label).map fun t => some (mark "@filter(" ++ t ++ mark ")")

/-- The count of an attribute's values, with the filter inside. -/
def countPhrase : Except RenderError Phrase :=
  c.filterPhrase.map fun directive =>
    application (mark "count")
      (c.attributePhrase ++ c.parameterPhrase ++
        match directive with
        | some d => mark " " ++ d
        | none => [])

/-- An attribute with all that is asked of it; a node without attribute is written
by its alias as an empty call. -/
def attributeLinePhrase : Except RenderError Phrase :=
  if c.attr.isEmpty then
    if c.aliasName.isEmpty then .error .unnamedBlock else .ok (own c.aliasName ++ mark "()")
  else .ok (c.aliasPhrase ++ c.attributePhrase ++ c.parameterPhrase ++ c.expansionPhrase)

/-- What the line of a node below a root says in front of its directives. -/
def bodyPhrase : Except RenderError Phrase :=
  match c.call, c.math with
  | some call, _ =>
    (if call.name = "checkpwd" then c.passwordPhrase call else c.functionPhrase call).map
      (c.aliasPhrase ++ ·)
  | none, some e => (e.phrase c.label).map (c.aliasPhrase ++ ·)
  | none, none =>
    if c.isCount then c.countPhrase.map (c.aliasPhrase ++ ·)
    else if c.attr = "val" && !c.uses.isEmpty then
      .ok (c.aliasPhrase ++ values (c.uses.map fun u => .reference u.name))
    else c.attributeLinePhrase

/-- Whether the filter stands inside the body rather than among the directives. -/
def filterIsInBody : Bool := c.call.isNone && c.math.isNone && c.isCount

/-! ## Directives -/

/-- The grouping directive; none if there is nothing to group by. -/
def groupPhrase : Option Phrase :=
  if c.groupKeys.isEmpty then none
  else
    some (application (mark "@groupby") (listed (c.groupKeys.map fun g =>
      named g.aliasName ++ predicate .grouping g.attr ++ Render.languagesPhrase g.langs)))

/-- The directives that are flags. -/
def flagPhrases : List Phrase :=
  (if c.normalize then [mark "@normalize"] else []) ++
    (if c.cascade then [mark "@cascade"] else []) ++
    (if c.recurse then [mark "@recurse"] else []) ++
    (if c.ignoreReflex then [mark "@ignorereflex"] else [])

/-- The directives of a node, each behind a space: filter, facet filter, facets,
grouping, flags. -/
def directivePhrase (withFilter hasChildren : Bool) : Except RenderError Phrase := do
  let filter ← if withFilter then c.filterPhrase else .ok none
  let facetFilter ← c.facetFilterPhrase c.label
  let all := filter.toList ++ facetFilter.toList ++ (c.facetPhrase hasChildren).toList ++
    c.groupPhrase.toList ++ c.flagPhrases
  return joined [] (all.map (mark " " ++ ·))

/-! ## Lines -/

/-- The line of a node below a root, without the bracket that opens its block. -/
def childPhrase (depth : Nat) (hasChildren : Bool) : Except RenderError Phrase := do
  let body ← c.bodyPhrase
  let directives ← c.directivePhrase (!c.filterIsInBody) hasChildren
  return indent depth ++ c.bindingPhrase ++ body ++ directives

/-- The line that opens the block of a root. -/
def rootPhrase (depth : Nat) (hasChildren : Bool) : Except RenderError Phrase := do
  if c.resultName.isEmpty then throw .unnamedBlock
  let function ← match c.call with
    | some call => (c.functionPhrase call).map fun t => [mark "func: " ++ t]
    | none => .ok []
  let parts := function ++ c.orderPhrases ++ c.argumentPhrases
  let directives ← c.directivePhrase true hasChildren
  return indent depth ++ c.bindingPhrase ++ own c.resultName ++ mark "(" ++ listed parts ++
    mark ")" ++ directives ++ mark " \x7b"

end Clause

/-- The line that closes a block. -/
def closingPhrase (depth : Nat) : Phrase := indent depth ++ mark "\x7d"

mutual

/-- The lines of a node below a root. An internal node hides its children. -/
def Query.childPhrases (depth : Nat) : Query → Except RenderError (List Phrase)
  | ⟨clause, _, children⟩ =>
    match clause.childPhrase depth (!children.isEmpty) with
    | .error e => .error e
    | .ok line =>
      if clause.isInternal || children.isEmpty then .ok [line]
      else
        (Query.allChildPhrases (depth + 1) children).map fun lines =>
          (line ++ mark " \x7b") :: lines ++ [closingPhrase depth]

/-- The lines of nodes below a root, one by one; the first fault decides. -/
def Query.allChildPhrases (depth : Nat) : List Query → Except RenderError (List Phrase)
  | [] => .ok []
  | q :: rest =>
    match q.childPhrases depth with
    | .error e => .error e
    | .ok lines => (Query.allChildPhrases depth rest).map (lines ++ ·)

end

/-- The lines of a root. It opens a block even without children. -/
def Query.rootPhrases (depth : Nat) (q : Query) : Except RenderError (List Phrase) := do
  let line ← q.clause.rootPhrase depth (!q.children.isEmpty)
  let lines ← Query.allChildPhrases (depth + 1) q.children
  return line :: lines ++ [closingPhrase depth]

/-- The lines of roots, one by one; the first fault decides. -/
def Query.allRootPhrases (depth : Nat) : List Query → Except RenderError (List Phrase)
  | [] => .ok []
  | q :: rest => do
    let lines ← q.rootPhrases depth
    let more ← Query.allRootPhrases depth rest
    return lines ++ more

namespace Block

/-- The line that opens a request: the operation with its name and the types of
its variables, if it has any of them. -/
def headerPhrase (b : Block) : Phrase :=
  let operation := mark "query" ++ unlessEmpty b.aliasName fun a => mark " " ++ own a
  if !b.variableTypes.isEmpty then
    let declared := b.variableTypes.entries.map fun e => entry e.1 e.2
    operation ++ mark "(" ++ listed declared ++ mark ") \x7b"
  else if !b.aliasName.isEmpty then operation ++ mark " \x7b"
  else mark "\x7b"

/-- The lines of a block. -/
def phrases (b : Block) : Except RenderError (List Phrase) :=
  (Query.allRootPhrases 1 b.queries).map fun lines => b.headerPhrase :: lines ++ [mark "\x7d"]

/-- All pieces that a block is written with, before it is brought into normal layout. -/
def phrase (b : Block) : Except RenderError Phrase := do
  Scope.check b.queries
  let lines ← b.phrases
  return joined [.lineBreak] lines

/-- The text of a block, in normal layout, if `isUri` says what counts as a URI. -/
def renderUnder (isUri : String → Bool) (b : Block) : Except RenderError String :=
  b.phrase.map fun t => Text.normalize (t.text isUri)

/-- The text of a block, in normal layout. -/
def render (b : Block) : Except RenderError String := b.renderUnder Uri.isAbsolute

end Block

end Dql
