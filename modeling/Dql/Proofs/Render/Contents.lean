import Dql.Proofs.Render.Unquoted

/-!
# What a block holds

Beside the strings that are written without quotes there are other things that a block holds
and that its text is to be accounted for by. The functions called `quoted…` list its literals,
those called `…Predicates` the predicates that it names, each with its place, and those called
`unchecked…` the names that are read by value though the check of references does not look
them up. All of them go by the order of the document and list what is written: what a branch
of the writer leaves out is not listed.

`Contents` puts these lists together, with the names that variables may have, and the
functions called `…Contents` give them for each part of a block.
-/

namespace Dql

/-! ## Literals -/

/-- The literal of an argument, if it is one. -/
def Render.quotedArgument (ofVariable : Bool) (a : Argument) : List String :=
  if a.isValueVariable || a.isRequestVariable || ofVariable then [] else [a.value]

namespace Call

variable (c : Call)

/-- The literals among the arguments of a call. -/
def quotedArguments : List String :=
  if c.name = "regexp" then [] else c.arguments.flatMap (Render.quotedArgument c.isValueVariable)

/-- The literals of a call as the leaf of a filter: over variables it quotes nothing. -/
def quotedInLeaf : List String := if c.attr.isEmpty then [] else c.quotedArguments

end Call

mutual

/-- The literals of a filter. -/
def Filter.quoted : Filter → List String
  | ⟨_, operands, call⟩ =>
    match call with
    | some call => call.quotedInLeaf
    | none => Filter.allQuoted operands

/-- The literals of filters. -/
def Filter.allQuoted : List Filter → List String
  | [] => []
  | f :: rest => f.quoted ++ Filter.allQuoted rest

end

namespace Clause

variable (c : Clause)

/-- The literals of the filter directive. -/
def quotedFilter : List String :=
  match c.filter with
  | none => []
  | some f => if f.isEmpty then [] else f.quoted

/-- The literals of the facet filter. -/
def quotedFacetFilter : List String := (c.facetFilter.map Filter.quoted).getD []

/-- The literals of the directives. -/
def quotedDirectives (withFilter : Bool) : List String :=
  (if withFilter then c.quotedFilter else []) ++ c.quotedFacetFilter

/-- The literals of what a node is about: those of its call, or those of the filter that
stands inside a count. A password is always a literal. -/
def quotedBody : List String :=
  match c.call, c.math with
  | some call, _ =>
    if call.name = "checkpwd" then call.arguments.map (·.value) else call.quotedArguments
  | none, some _ => []
  | none, none => if c.isCount then c.quotedFilter else []

/-- The literals of the line of a node below a root. -/
def quotedChildLine : List String := c.quotedBody ++ c.quotedDirectives (!c.filterIsInBody)

/-- The literals of the line that opens the block of a root. -/
def quotedRootLine : List String :=
  (c.call.map Call.quotedArguments).getD [] ++ c.quotedDirectives true

end Clause

mutual

/-- The literals of a node below a root, those of the nodes below it included. -/
def Query.quotedBelow : Query → List String
  | ⟨clause, _, children⟩ =>
    clause.quotedChildLine ++ if clause.isInternal then [] else Query.allQuotedBelow children

/-- The literals of nodes below a root. -/
def Query.allQuotedBelow : List Query → List String
  | [] => []
  | q :: rest => q.quotedBelow ++ Query.allQuotedBelow rest

end

/-- The literals of a root. -/
def Query.quoted (q : Query) : List String :=
  q.clause.quotedRootLine ++ Query.allQuotedBelow q.children

/-- The literals of a block, in the order of the document. -/
def Block.quoted (b : Block) : List String := b.queries.flatMap Query.quoted

/-! ## Predicates -/

/-- The predicate that a call names as the leaf of a filter. Identifiers stand in for it if there
are no arguments. -/
def Call.leafPredicates (c : Call) : List (Piece.Place × String) :=
  if c.attr.isEmpty || (c.arguments.isEmpty && !c.ids.isEmpty) then [] else [(.subject, c.attr)]

mutual

/-- The predicates that a filter names. -/
def Filter.predicates : Filter → List (Piece.Place × String)
  | ⟨_, operands, call⟩ =>
    match call with
    | some call => call.leafPredicates
    | none => Filter.allPredicates operands

/-- The predicates that filters name. -/
def Filter.allPredicates : List Filter → List (Piece.Place × String)
  | [] => []
  | f :: rest => f.predicates ++ Filter.allPredicates rest

end

namespace Clause

variable (c : Clause)

/-- The predicates that the orderings of a node name. An ordering by a variable names none. -/
def orderPredicates : List (Piece.Place × String) :=
  (c.orders.filter fun o => (c.useKinds.find? o.attr).isNone).map fun o => (.ordering, o.attr)

/-- The predicate that the function of a node names: the node's attribute or, without one, that of
the call. -/
def functionPredicates (call : Call) : List (Piece.Place × String) :=
  if !c.attr.isEmpty then
    if (c.functionArguments call).isEmpty then [(.subject, c.attr)] else [(.applied, c.attr)]
  else if !call.attr.isEmpty then [(.subject, call.attr)]
  else []

/-- The predicates that the filter of a node names. -/
def filterPredicates : List (Piece.Place × String) :=
  match c.filter with
  | none => []
  | some f => if f.isEmpty then [] else f.predicates

/-- The predicates that the line of a node names in front of its directives. The attribute `val`
of a node that uses variables is the word that reads these, and no predicate. -/
def bodyPredicates : List (Piece.Place × String) :=
  match c.call, c.math with
  | some call, _ =>
    if call.name = "checkpwd" then [(.subject, call.attr)] else c.functionPredicates call
  | none, some _ => []
  | none, none =>
    if c.isCount then (.subject, c.attr) :: c.orderPredicates ++ c.filterPredicates
    else if c.attr.isEmpty || (c.attr = "val" && !c.uses.isEmpty) then []
    else (.subject, c.attr) :: c.orderPredicates

/-- The predicates that the facet filter of a node names. -/
def facetFilterPredicates : List (Piece.Place × String) :=
  (c.facetFilter.map Filter.predicates).getD []

/-- The predicates that the directives of a node name. -/
def directivePredicates (withFilter : Bool) : List (Piece.Place × String) :=
  (if withFilter then c.filterPredicates else []) ++ c.facetFilterPredicates ++
    c.groupKeys.map fun g => (.grouping, g.attr)

/-- The predicates that the line of a node below a root names. -/
def childPredicates : List (Piece.Place × String) :=
  c.bodyPredicates ++ c.directivePredicates (!c.filterIsInBody)

/-- The predicates that the line of a root names. The name of its results is not one of them, even
if it is that of the attribute. -/
def rootPredicates : List (Piece.Place × String) :=
  (c.call.map c.functionPredicates).getD [] ++ c.orderPredicates ++ c.directivePredicates true

end Clause

mutual

/-- The predicates that the lines of a node below a root name. An internal node hides those of
the nodes below it. -/
def Query.predicatesBelow : Query → List (Piece.Place × String)
  | ⟨clause, _, children⟩ =>
    clause.childPredicates ++ if clause.isInternal then [] else Query.allPredicatesBelow children

/-- The predicates that the lines of nodes below a root name. -/
def Query.allPredicatesBelow : List Query → List (Piece.Place × String)
  | [] => []
  | q :: rest => q.predicatesBelow ++ Query.allPredicatesBelow rest

end

/-- The predicates that the lines of a root name. -/
def Query.predicates (q : Query) : List (Piece.Place × String) :=
  q.clause.rootPredicates ++ Query.allPredicatesBelow q.children

/-- The predicates that a block names, in the order of its text. -/
def Block.predicates (b : Block) : List (Piece.Place × String) := b.queries.flatMap Query.predicates

/-! ## Names that nothing checks

The attribute of a leaf over the value of a variable stands inside of `val(...)`, and so does what
a function at a node with the attribute `val` has for arguments. Of neither a reference is made. -/

namespace Call

variable (c : Call)

/-- The attribute of a call as the leaf of a filter, if it is read by value. -/
def uncheckedInLeaf : List String :=
  if c.isValueVariable && !c.attr.isEmpty && !c.arguments.isEmpty then [c.attr] else []

/-- The arguments that are written as they are: of a pattern all, else those that are variables of
the request or of the call. -/
def rawArguments : List String :=
  match c.arguments with
  | [] => []
  | first :: rest =>
    if c.name = "regexp" then [Render.pattern first.value (rest.map (·.value))]
    else
      ((first :: rest).filter fun a =>
        !a.isValueVariable && (a.isRequestVariable || c.isValueVariable)).map (·.value)

end Call

mutual

/-- The names of a filter that are read by value and not checked. -/
def Filter.unchecked : Filter → List String
  | ⟨_, operands, call⟩ =>
    match call with
    | some call => call.uncheckedInLeaf
    | none => Filter.allUnchecked operands

/-- The names of filters that are read by value and not checked. -/
def Filter.allUnchecked : List Filter → List String
  | [] => []
  | f :: rest => f.unchecked ++ Filter.allUnchecked rest

end

namespace Clause

variable (c : Clause)

/-- What the function of a node reads by value unchecked: nothing, unless the attribute of the node
is the word that reads values. -/
def uncheckedInFunction (call : Call) : List String :=
  if c.attr = "val" && !(c.functionArguments call).isEmpty then call.rawArguments else []

/-- The names of the filter directive that are read by value and not checked. -/
def uncheckedInFilter : List String :=
  match c.filter with
  | none => []
  | some f => if f.isEmpty then [] else f.unchecked

/-- The names of the facet filter that are read by value and not checked. -/
def uncheckedInFacetFilter : List String := (c.facetFilter.map Filter.unchecked).getD []

/-- The names of the directives that are read by value and not checked. -/
def uncheckedInDirectives (withFilter : Bool) : List String :=
  (if withFilter then c.uncheckedInFilter else []) ++ c.uncheckedInFacetFilter

/-- The names that the line of a node reads by value unchecked in front of its directives. -/
def uncheckedInBody : List String :=
  match c.call, c.math with
  | some call, _ => if call.name = "checkpwd" then [] else c.uncheckedInFunction call
  | none, some _ => []
  | none, none => if c.isCount then c.uncheckedInFilter else []

/-- The names that the line of a node below a root reads by value unchecked. -/
def uncheckedInChild : List String :=
  c.uncheckedInBody ++ c.uncheckedInDirectives (!c.filterIsInBody)

/-- The names that the line of a root reads by value unchecked. -/
def uncheckedInRoot : List String :=
  (c.call.map c.uncheckedInFunction).getD [] ++ c.uncheckedInDirectives true

end Clause

mutual

/-- The names that a node below a root reads by value unchecked, with those of the nodes below. -/
def Query.uncheckedBelow : Query → List String
  | ⟨clause, _, children⟩ =>
    clause.uncheckedInChild ++ if clause.isInternal then [] else Query.allUncheckedBelow children

/-- The names that nodes below a root read by value unchecked. -/
def Query.allUncheckedBelow : List Query → List String
  | [] => []
  | q :: rest => q.uncheckedBelow ++ Query.allUncheckedBelow rest

end

/-- The names that a root reads by value unchecked, with those of the nodes below. -/
def Query.unchecked (q : Query) : List String :=
  q.clause.uncheckedInRoot ++ Query.allUncheckedBelow q.children

/-- The names that a block reads by value without a check: the attributes of leaves over the value
of a variable, and what functions at nodes with the attribute `val` take as it is. -/
def Block.unchecked (b : Block) : List String := b.queries.flatMap Query.unchecked

/-! ## Everything together -/

/-- What a part of a block holds. -/
@[ext]
structure Contents where
  /-- The strings that are written without quotes, and the words that open lookups. -/
  own : List String := []
  literals : List String := []
  predicates : List (Piece.Place × String) := []
  /-- Names among which are those of all variables. -/
  variableNames : List String := []
  unchecked : List String := []

namespace Contents

instance : Append Contents where
  append c d :=
    ⟨c.own ++ d.own, c.literals ++ d.literals, c.predicates ++ d.predicates,
      c.variableNames ++ d.variableNames, c.unchecked ++ d.unchecked⟩

variable (c d e : Contents)

theorem append_mk : c ++ d =
    ⟨c.own ++ d.own, c.literals ++ d.literals, c.predicates ++ d.predicates,
      c.variableNames ++ d.variableNames, c.unchecked ++ d.unchecked⟩ := rfl

@[simp] theorem own_append : (c ++ d).own = c.own ++ d.own := rfl

@[simp] theorem literals_append : (c ++ d).literals = c.literals ++ d.literals := rfl

@[simp] theorem predicates_append : (c ++ d).predicates = c.predicates ++ d.predicates := rfl

@[simp] theorem variableNames_append :
    (c ++ d).variableNames = c.variableNames ++ d.variableNames := rfl

@[simp] theorem unchecked_append : (c ++ d).unchecked = c.unchecked ++ d.unchecked := rfl

@[simp] theorem append_empty : c ++ {} = c := by
  ext1 <;> exact List.append_nil _

@[simp] theorem empty_append : {} ++ c = c := rfl

theorem append_assoc : c ++ d ++ e = c ++ (d ++ e) := by
  ext1 <;> exact List.append_assoc _ _ _

/-- What the members of a list hold. -/
def ofEach {α : Type} (xs : List α) (f : α → Contents) : Contents where
  own := xs.flatMap fun x => (f x).own
  literals := xs.flatMap fun x => (f x).literals
  predicates := xs.flatMap fun x => (f x).predicates
  variableNames := xs.flatMap fun x => (f x).variableNames
  unchecked := xs.flatMap fun x => (f x).unchecked

end Contents

/-- What a call holds as the leaf of a filter. -/
def Call.leafContents (c : Call) : Contents :=
  ⟨c.unquotedInLeaf, c.quotedInLeaf, c.leafPredicates, Scope.namesInCall c, c.uncheckedInLeaf⟩

/-- What a filter holds. -/
def Filter.contents (f : Filter) : Contents :=
  ⟨f.unquoted, f.quoted, f.predicates, Scope.namesInFilter f, f.unchecked⟩

/-- What filters hold. -/
def Filter.allContents (fs : List Filter) : Contents :=
  ⟨allUnquoted fs, allQuoted fs, allPredicates fs, Scope.namesInFilters fs, allUnchecked fs⟩

namespace Clause

variable (c : Clause)

/-- The variables that results are ordered by. -/
def orderVariables : List String :=
  (c.orders.filter fun o => (c.useKinds.find? o.attr).isSome).map (·.attr)

/-- The variables of the filter directive. -/
def filterVariables : List String :=
  match c.filter with
  | none => []
  | some f => if f.isEmpty then [] else Scope.namesInFilter f

/-- The variables of the facet filter. -/
def facetFilterVariables : List String := (c.facetFilter.map Scope.namesInFilter).getD []

/-- What the orderings of a node hold. -/
def orderContents : Contents where
  own := c.unquotedOrders
  predicates := c.orderPredicates
  variableNames := c.orderVariables

/-- What the arguments and the orderings of a node hold. -/
def parameterContents : Contents where
  own := c.unquotedArguments ++ c.unquotedOrders
  predicates := c.orderPredicates
  variableNames := c.orderVariables

/-- What the attribute of a node holds. -/
def attributeContents : Contents where
  own := Render.unquotedAttribute c.attr c.langs
  predicates := [(.subject, c.attr)]

/-- What the function of a node holds. -/
def functionContents (call : Call) : Contents :=
  ⟨c.unquotedFunction call, call.quotedArguments, c.functionPredicates call,
    Scope.namesInCall call, c.uncheckedInFunction call⟩

/-- What the filter directive of a node holds. -/
def filterContents : Contents :=
  ⟨c.unquotedFilter, c.quotedFilter, c.filterPredicates, c.filterVariables, c.uncheckedInFilter⟩

/-- What the facet filter of a node holds. -/
def facetFilterContents : Contents :=
  ⟨c.unquotedFacetFilter, c.quotedFacetFilter, c.facetFilterPredicates, c.facetFilterVariables,
    c.uncheckedInFacetFilter⟩

/-- What the grouping of a node holds. -/
def groupContents : Contents where
  own := c.unquotedGroups
  predicates := c.groupKeys.map fun g => (.grouping, g.attr)

/-- What the line of a node holds in front of its directives. -/
def bodyContents : Contents :=
  ⟨c.unquotedBody, c.quotedBody, c.bodyPredicates, Scope.namesInClause c, c.uncheckedInBody⟩

/-- What the directives of a node hold. -/
def directiveContents (withFilter : Bool) : Contents :=
  ⟨c.unquotedDirectives withFilter, c.quotedDirectives withFilter,
    c.directivePredicates withFilter,
    (if withFilter then c.filterVariables else []) ++ c.facetFilterVariables,
    c.uncheckedInDirectives withFilter⟩

/-- What the line of a node below a root holds. -/
def childContents : Contents :=
  ⟨c.unquotedChildLine, c.quotedChildLine, c.childPredicates, Scope.namesInClause c,
    c.uncheckedInChild⟩

/-- The word that a root opens its lookup with, if it has a call. -/
def rootMark : List String := if c.call.isSome then ["func:"] else []

/-- What the line of a root holds. -/
def rootContents : Contents :=
  ⟨c.rootMark ++ c.unquotedRootLine, c.quotedRootLine, c.rootPredicates, Scope.namesInClause c,
    c.uncheckedInRoot⟩

end Clause

namespace Query

/-- What a node below a root holds. -/
def contentsBelow (q : Query) : Contents :=
  ⟨q.unquotedBelow, q.quotedBelow, q.predicatesBelow, (Scope.referencesOf q).map (·.name),
    q.uncheckedBelow⟩

/-- What nodes below a root hold. -/
def allContentsBelow (qs : List Query) : Contents :=
  ⟨allUnquotedBelow qs, allQuotedBelow qs, allPredicatesBelow qs,
    (Scope.references qs).map (·.name), allUncheckedBelow qs⟩

/-- What a root holds. -/
def contents (q : Query) : Contents :=
  ⟨q.clause.rootMark ++ q.unquoted, q.quoted, q.predicates, (Scope.referencesOf q).map (·.name),
    q.unchecked⟩

end Query

namespace Block

variable (b : Block)

/-- The strings of the line that opens a request. -/
def unquotedHeader : List String :=
  b.aliasName :: b.variableTypes.entries.flatMap fun e => [e.1 ++ ":", e.2]

/-- What a block holds. -/
def contents : Contents where
  own := b.unquotedHeader ++ b.queries.flatMap fun q => q.clause.rootMark ++ q.unquoted
  literals := b.quoted
  predicates := b.predicates
  variableNames := (Scope.references b.queries).map (·.name)
  unchecked := b.unchecked

end Block

end Dql
