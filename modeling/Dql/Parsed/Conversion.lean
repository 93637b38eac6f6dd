import Dql.Parsed.Basic
import Dql.Query.Basic

/-!
# Between queries and parsed trees

`ParsedQuery.toQueries` turns what the parser reports into queries, and `Query.allToParsed` says
what the parser would report for queries. Both go through the tree record by record, field by
field. Two things are not copied: the kind of a variable is a number for the parser, where a number
that stands for no kind means a set of nodes; and the parser knows nothing of fallbacks.
-/

namespace Dql

/-! ## What the parser's numbers mean -/

/-- The number of a kind, as the parser writes it. -/
def VariableKind.toParsed (k : VariableKind) : Int32 := Int32.ofNat k.code

/-- The kind that the parser means by a number; one that stands for no kind, as
when the parser left it unset, means a set of nodes. -/
def VariableKind.ofParsed (n : Int32) : VariableKind :=
  if n = 2 then .values else if n = 3 then .predicates else .nodes

@[simp] theorem VariableKind.ofParsed_toParsed (k : VariableKind) : ofParsed k.toParsed = k := by
  cases k <;> decide

/-! ## From the parser -/

/-- The use of a variable that is reported. -/
def ParsedVariableUse.toVariableUse (u : ParsedVariableUse) : VariableUse :=
  ⟨u.name, .ofParsed u.kind⟩

/-- The argument that is reported. -/
def ParsedArgument.toArgument (a : ParsedArgument) : Argument where
  value := a.value
  isValueVariable := a.isValueVariable
  isRequestVariable := a.isRequestVariable

/-- The call that is reported. -/
def ParsedCall.toCall (c : ParsedCall) : Call where
  attr := c.attr
  lang := c.lang
  name := c.name
  arguments := c.arguments.map ParsedArgument.toArgument
  ids := c.ids
  uses := c.uses.map ParsedVariableUse.toVariableUse
  isCount := c.isCount
  isValueVariable := c.isValueVariable

mutual

/-- The filter that is reported. -/
def ParsedFilter.toFilter : ParsedFilter → Filter
  | ⟨op, operands, call⟩ => ⟨op, ParsedFilter.toFilters operands, call.map ParsedCall.toCall⟩

/-- The filters that are reported. -/
def ParsedFilter.toFilters : List ParsedFilter → List Filter
  | [] => []
  | f :: rest => f.toFilter :: ParsedFilter.toFilters rest

end

/-- The scalar that is reported. -/
def ParsedScalar.toScalar (s : ParsedScalar) : Scalar where
  typeId := s.typeId
  value := s.value

mutual

/-- The expression that is reported. -/
def ParsedMathExpr.toMathExpr : ParsedMathExpr → MathExpr
  | ⟨fn, variableName, constant, values, operands⟩ =>
    ⟨fn, variableName, constant.toScalar, values.map fun _ s => s.toScalar,
      ParsedMathExpr.toMathExprs operands⟩

/-- The expressions that are reported. -/
def ParsedMathExpr.toMathExprs : List ParsedMathExpr → List MathExpr
  | [] => []
  | e :: rest => e.toMathExpr :: ParsedMathExpr.toMathExprs rest

end

/-- The ordering that is reported. -/
def ParsedOrder.toOrder (o : ParsedOrder) : Order where
  attr := o.attr
  descending := o.descending
  langs := o.langs

/-- The facet key that is reported. -/
def ParsedFacetKey.toFacetKey (k : ParsedFacetKey) : FacetKey where
  key := k.key
  aliasName := k.aliasName

/-- The facets that are reported. -/
def ParsedFacetRequest.toFacetRequest (r : ParsedFacetRequest) : FacetRequest where
  allKeys := r.allKeys
  keys := r.keys.map ParsedFacetKey.toFacetKey

/-- The grouping that is reported. -/
def ParsedGroupKey.toGroupKey (g : ParsedGroupKey) : GroupKey where
  attr := g.attr
  aliasName := g.aliasName
  langs := g.langs

/-- The clause that is reported. -/
def ParsedClause.toClause (c : ParsedClause) : Clause where
  ids := c.ids
  attr := c.attr
  langs := c.langs
  aliasName := c.aliasName
  isCount := c.isCount
  isInternal := c.isInternal
  isGroupBy := c.isGroupBy
  variableName := c.variableName
  uses := c.uses.map ParsedVariableUse.toVariableUse
  call := c.call.map ParsedCall.toCall
  expand := c.expand
  arguments := c.arguments
  orders := c.orders.map ParsedOrder.toOrder
  filter := c.filter.map ParsedFilter.toFilter
  math := c.math.map ParsedMathExpr.toMathExpr
  normalize := c.normalize
  recurse := c.recurse
  cascade := c.cascade
  ignoreReflex := c.ignoreReflex
  facets := c.facets.map ParsedFacetRequest.toFacetRequest
  facetFilter := c.facetFilter.map ParsedFilter.toFilter
  facetVariables := c.facetVariables
  facetOrder := c.facetOrder
  facetDescending := c.facetDescending
  groupKeys := c.groupKeys.map ParsedGroupKey.toGroupKey

mutual

/-- The query that a parsed tree stands for. -/
def ParsedQuery.toQuery : ParsedQuery → Query
  | ⟨clause, children⟩ => ⟨clause.toClause, none, ParsedQuery.toQueries children⟩

/-- The queries that parsed trees stand for. -/
def ParsedQuery.toQueries : List ParsedQuery → List Query
  | [] => []
  | p :: rest => p.toQuery :: ParsedQuery.toQueries rest

end

/-! ## To the parser -/

/-- The use of a variable as it would be reported. -/
def VariableUse.toParsed (u : VariableUse) : ParsedVariableUse := ⟨u.name, u.kind.toParsed⟩

/-- The argument as it would be reported. -/
def Argument.toParsed (a : Argument) : ParsedArgument where
  value := a.value
  isValueVariable := a.isValueVariable
  isRequestVariable := a.isRequestVariable

/-- The call as it would be reported. -/
def Call.toParsed (c : Call) : ParsedCall where
  attr := c.attr
  lang := c.lang
  name := c.name
  arguments := c.arguments.map Argument.toParsed
  ids := c.ids
  uses := c.uses.map VariableUse.toParsed
  isCount := c.isCount
  isValueVariable := c.isValueVariable

mutual

/-- The filter as it would be reported. -/
def Filter.toParsed : Filter → ParsedFilter
  | ⟨op, operands, call⟩ => ⟨op, Filter.allToParsed operands, call.map Call.toParsed⟩

/-- The filters as they would be reported. -/
def Filter.allToParsed : List Filter → List ParsedFilter
  | [] => []
  | f :: rest => f.toParsed :: Filter.allToParsed rest

end

/-- The scalar as it would be reported. -/
def Scalar.toParsed (s : Scalar) : ParsedScalar where
  typeId := s.typeId
  value := s.value

mutual

/-- The expression as it would be reported. -/
def MathExpr.toParsed : MathExpr → ParsedMathExpr
  | ⟨fn, variableName, constant, values, operands⟩ =>
    ⟨fn, variableName, constant.toParsed, values.map fun _ s => s.toParsed,
      MathExpr.allToParsed operands⟩

/-- The expressions as they would be reported. -/
def MathExpr.allToParsed : List MathExpr → List ParsedMathExpr
  | [] => []
  | e :: rest => e.toParsed :: MathExpr.allToParsed rest

end

/-- The ordering as it would be reported. -/
def Order.toParsed (o : Order) : ParsedOrder where
  attr := o.attr
  descending := o.descending
  langs := o.langs

/-- The facet key as it would be reported. -/
def FacetKey.toParsed (k : FacetKey) : ParsedFacetKey where
  key := k.key
  aliasName := k.aliasName

/-- The facets as they would be reported. -/
def FacetRequest.toParsed (r : FacetRequest) : ParsedFacetRequest where
  allKeys := r.allKeys
  keys := r.keys.map FacetKey.toParsed

/-- The grouping as it would be reported. -/
def GroupKey.toParsed (g : GroupKey) : ParsedGroupKey where
  attr := g.attr
  aliasName := g.aliasName
  langs := g.langs

/-- The clause as it would be reported. -/
def Clause.toParsed (c : Clause) : ParsedClause where
  ids := c.ids
  attr := c.attr
  langs := c.langs
  aliasName := c.aliasName
  isCount := c.isCount
  isInternal := c.isInternal
  isGroupBy := c.isGroupBy
  variableName := c.variableName
  uses := c.uses.map VariableUse.toParsed
  call := c.call.map Call.toParsed
  expand := c.expand
  arguments := c.arguments
  orders := c.orders.map Order.toParsed
  filter := c.filter.map Filter.toParsed
  math := c.math.map MathExpr.toParsed
  normalize := c.normalize
  recurse := c.recurse
  cascade := c.cascade
  ignoreReflex := c.ignoreReflex
  facets := c.facets.map FacetRequest.toParsed
  facetFilter := c.facetFilter.map Filter.toParsed
  groupKeys := c.groupKeys.map GroupKey.toParsed
  facetVariables := c.facetVariables
  facetOrder := c.facetOrder
  facetDescending := c.facetDescending

mutual

/-- What the parser would report for a query. -/
def Query.toParsed : Query → ParsedQuery
  | ⟨clause, _, children⟩ => ⟨clause.toParsed, Query.allToParsed children⟩

/-- What the parser would report for queries. -/
def Query.allToParsed : List Query → List ParsedQuery
  | [] => []
  | q :: rest => q.toParsed :: Query.allToParsed rest

end

end Dql
