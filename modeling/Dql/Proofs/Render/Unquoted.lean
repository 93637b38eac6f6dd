import Dql.Render.Block

/-!
# What a block writes without quotes

Literal arguments of calls are quoted when a block is written. Every other string of
the tree goes into the text as it is: names, aliases with their colon, attributes,
languages, the keys and values of arguments, variables, patterns, expressions. The
functions called `unquoted…` list these strings, each exactly as it is written and
where it is written: what a branch of the writer leaves out is not listed.

What these lists are good for is said where the writer is gone through function by
function: its text is accounted for by them.
-/

namespace Dql

open Text

namespace Render

/-- The unquoted strings of an argument. -/
def unquotedArgument (ofVariable : Bool) (a : Argument) : List String :=
  if a.isValueVariable || a.isRequestVariable || ofVariable then [a.value] else []

/-- The unquoted strings of an attribute with its languages: a colon stands between two
of the languages, so they are one string. -/
def unquotedAttribute (attr : String) (langs : List String) : List String :=
  [attr, join ":" langs]

/-- The unquoted string of a name in front of what it stands for, if it has one. -/
def unquotedLabel (name : String) : List String :=
  if name.isEmpty then [] else [name ++ ":"]

end Render

namespace Call

variable (c : Call)

/-- The names of the variables that a call uses. -/
def unquotedUses : List String := c.uses.map (·.name)

/-- The unquoted strings of the arguments: a pattern is one with its flags. -/
def unquotedArguments : List String :=
  match c.arguments with
  | [] => []
  | first :: rest =>
    if c.name = "regexp" then [Render.pattern first.value (rest.map (·.value))]
    else (first :: rest).flatMap (Render.unquotedArgument c.isValueVariable)

/-- The unquoted strings of a call as the leaf of a filter. -/
def unquotedInLeaf : List String :=
  c.name ::
    if c.arguments.isEmpty then
      if !c.ids.isEmpty then c.unquotedUses
      else if !c.attr.isEmpty then [c.attr, c.lang]
      else c.unquotedUses
    else if !c.attr.isEmpty then
      if c.isCount then c.attr :: c.unquotedArguments
      else c.attr :: c.lang :: c.unquotedArguments
    else c.unquotedUses ++ c.arguments.map (·.value)

end Call

/-- The operator of a filter, as often as it is written: once in front of the operands,
or between each two of them. -/
def Filter.unquotedOperator (op : String) (operands : List Filter) :
    List String :=
  if Filter.prefixConnectives.contains op then [op]
  else List.replicate (operands.length - 1) op

mutual

/-- The unquoted strings of a filter. -/
def Filter.unquoted : Filter → List String
  | ⟨op, operands, call⟩ =>
    match call with
    | some call => call.unquotedInLeaf
    | none => Filter.unquotedOperator op operands ++ Filter.allUnquoted operands

/-- The unquoted strings of filters. -/
def Filter.allUnquoted : List Filter → List String
  | [] => []
  | f :: rest => f.unquoted ++ Filter.allUnquoted rest

end

namespace Clause

variable (c : Clause)

/-- The unquoted strings of the arguments of a node. -/
def unquotedArguments : List String :=
  c.arguments.entries.flatMap fun e => [e.1 ++ ":", e.2]

/-- The unquoted strings of an ordering: a variable, or an attribute. -/
def unquotedOrder (o : Order) : List String :=
  match c.useKinds.find? o.attr with
  | some kind => [Render.variableOf o.attr kind]
  | none => Render.unquotedAttribute o.attr o.langs

/-- The unquoted strings of the orderings. -/
def unquotedOrders : List String := c.orders.flatMap c.unquotedOrder

/-- The names of the variables that a node uses. -/
def unquotedUses : List String := c.uses.map (·.name)

/-- The unquoted strings of what an attribute is expanded to. -/
def unquotedExpansion : List String :=
  if c.expand.isEmpty then [] else if c.uses.isEmpty then [c.expand] else c.unquotedUses

/-- The unquoted strings of the arguments of the function that generates the node. -/
def unquotedFunctionArguments (call : Call) : List String :=
  if call.arguments.isEmpty then call.unquotedUses else call.unquotedArguments

/-- The unquoted strings of the function that generates the node. -/
def unquotedFunction (call : Call) : List String :=
  call.name ::
    if !c.attr.isEmpty then
      if (c.functionArguments call).isEmpty then Render.unquotedAttribute c.attr c.langs
      else c.attr :: unquotedFunctionArguments call
    else if !call.attr.isEmpty then
      if call.isCount then call.attr :: unquotedFunctionArguments call
      else if (c.functionArguments call).isEmpty then [call.attr, call.lang]
      else call.attr :: call.lang :: unquotedFunctionArguments call
    else unquotedFunctionArguments call

/-- The unquoted strings of the filter directive. -/
def unquotedFilter : List String :=
  match c.filter with
  | none => []
  | some f => if f.isEmpty then [] else f.unquoted

/-- The unquoted strings of the facet filter. -/
def unquotedFacetFilter : List String := (c.facetFilter.map Filter.unquoted).getD []

/-- The unquoted strings of the order of facets. -/
def unquotedFacetOrder : List String :=
  if c.facetOrder.isEmpty then []
  else
    match c.facetVariables.find? c.facetOrder with
    | some name => [name, c.facetOrder]
    | none => [c.facetOrder]

/-- The unquoted strings of the facet directive. -/
def unquotedFacets : List String :=
  match c.facets with
  | none => []
  | some request =>
    if request.allKeys then []
    else
      c.unquotedFacetOrder ++
        ((c.facetVariables.entries.filter fun e => e.1 != c.facetOrder).flatMap fun e =>
          [e.2, e.1]) ++
        ((request.keys.filter fun k =>
            !c.facetVariables.contains k.key && k.key != c.facetOrder).flatMap fun k =>
          Render.unquotedLabel k.aliasName ++ [k.key])

/-- The unquoted strings of the grouping directive. -/
def unquotedGroups : List String :=
  c.groupKeys.flatMap fun g =>
    Render.unquotedLabel g.aliasName ++ Render.unquotedAttribute g.attr g.langs

/-- The unquoted strings of the directives. -/
def unquotedDirectives (withFilter : Bool) : List String :=
  (if withFilter then c.unquotedFilter else []) ++ c.unquotedFacetFilter ++ c.unquotedFacets ++
    c.unquotedGroups

/-- The unquoted strings of an attribute with all that is asked of it. -/
def unquotedAttributeLine : List String :=
  if c.attr.isEmpty then [c.aliasName]
  else
    Render.unquotedLabel c.aliasName ++ Render.unquotedAttribute c.attr c.langs ++
      (c.unquotedArguments ++ c.unquotedOrders) ++ c.unquotedExpansion

/-- The unquoted strings of what a node is about. An expression is one string: nothing
in it is quoted. -/
def unquotedBody : List String :=
  match c.call, c.math with
  | some call, _ =>
    Render.unquotedLabel c.aliasName ++
      if call.name = "checkpwd" then [call.attr] else c.unquotedFunction call
  | none, some e => Render.unquotedLabel c.aliasName ++ (e.toInfix c.label).toOption.toList
  | none, none =>
    if c.isCount then
      Render.unquotedLabel c.aliasName ++ (Render.unquotedAttribute c.attr c.langs ++
        (c.unquotedArguments ++ c.unquotedOrders) ++ c.unquotedFilter)
    else if c.attr = "val" && !c.uses.isEmpty then
      Render.unquotedLabel c.aliasName ++ c.unquotedUses
    else c.unquotedAttributeLine

/-- The unquoted strings of the line of a node below a root. -/
def unquotedChildLine : List String :=
  c.variableName :: c.unquotedBody ++ c.unquotedDirectives (!c.filterIsInBody)

/-- The unquoted strings of the call of a root. -/
def unquotedRootCall : List String :=
  match c.call with
  | some call => c.unquotedFunction call
  | none => []

/-- The unquoted strings of the line that opens the block of a root. -/
def unquotedRootLine : List String :=
  c.variableName :: c.resultName :: c.unquotedRootCall ++ c.unquotedOrders ++
    c.unquotedArguments ++ c.unquotedDirectives true

end Clause

mutual

/-- The unquoted strings of a node below a root, those of the nodes below it included. -/
def Query.unquotedBelow : Query → List String
  | ⟨clause, _, children⟩ =>
    clause.unquotedChildLine ++ if clause.isInternal then [] else Query.allUnquotedBelow children

/-- The unquoted strings of nodes below a root. -/
def Query.allUnquotedBelow : List Query → List String
  | [] => []
  | q :: rest => q.unquotedBelow ++ Query.allUnquotedBelow rest

end

/-- The unquoted strings of a root. -/
def Query.unquoted (q : Query) : List String :=
  q.clause.unquotedRootLine ++ Query.allUnquotedBelow q.children

/-- The unquoted strings of a block. -/
def Block.unquoted (b : Block) : List String :=
  b.aliasName :: (b.variableTypes.entries.flatMap fun e => [e.1 ++ ":", e.2]) ++
    b.queries.flatMap Query.unquoted

end Dql
