import Dql.Proofs.Parsed.Conversion
import Dql.Proofs.Query.Sameness

/-!
# Comparing in the parser's form

Queries are the same if they are equal once the signs of zeros are put aside. Here this is said of
what the parser reports: `ParsedQuery.unsignAllZeros` makes every zero in parsed trees a plain one,
and both translations between the forms keep zeros where they are, so it does not matter on which
side the signs are dropped (`ParsedQuery.unsignAllZeros_toQueries`,
`Query.unsignAllZeros_allToParsed`).

With the translations being inverse to each other up to kinds and fallbacks, this is all that
`allSame_stripAll_iff` needs: trees that were reported stand for given queries, fallbacks aside,
exactly if they are what the parser would report for them, kinds settled and signs of zeros aside.
-/

namespace Dql

/-! ## Zeros of parsed trees -/

/-- The scalar, every zero in its value without its sign. -/
def ParsedScalar.unsignZeros (s : ParsedScalar) : ParsedScalar :=
  { s with value := s.value.unsignZeros }

mutual

/-- The expression, every zero in its scalars without its sign. -/
def ParsedMathExpr.unsignZeros : ParsedMathExpr → ParsedMathExpr
  | ⟨fn, variableName, constant, values, operands⟩ =>
    ⟨fn, variableName, constant.unsignZeros, values.map fun _ s => s.unsignZeros,
      ParsedMathExpr.allUnsignZeros operands⟩

/-- The expressions, every zero in their scalars without its sign. -/
def ParsedMathExpr.allUnsignZeros : List ParsedMathExpr → List ParsedMathExpr
  | [] => []
  | e :: rest => e.unsignZeros :: ParsedMathExpr.allUnsignZeros rest

end

/-- The clause, every zero in its expression without its sign. -/
def ParsedClause.unsignZeros (c : ParsedClause) : ParsedClause :=
  { c with math := c.math.map ParsedMathExpr.unsignZeros }

mutual

/-- The parsed tree, every zero in it without its sign. -/
def ParsedQuery.unsignZeros : ParsedQuery → ParsedQuery
  | ⟨clause, children⟩ => ⟨clause.unsignZeros, ParsedQuery.unsignAllZeros children⟩

/-- The parsed trees, every zero in them without its sign. -/
def ParsedQuery.unsignAllZeros : List ParsedQuery → List ParsedQuery
  | [] => []
  | p :: rest => p.unsignZeros :: ParsedQuery.unsignAllZeros rest

end

/-! ## Zeros stay where they are -/

theorem ParsedScalar.unsignZeros_toScalar (s : ParsedScalar) :
    s.toScalar.unsignZeros = s.unsignZeros.toScalar := rfl

mutual

theorem ParsedMathExpr.unsignZeros_toMathExpr : ∀ e : ParsedMathExpr,
    e.toMathExpr.unsignZeros = e.unsignZeros.toMathExpr
  | ⟨fn, variableName, constant, values, operands⟩ => by
    rw [toMathExpr, MathExpr.unsignZeros, unsignZeros, toMathExpr,
      ParsedMathExpr.allUnsignZeros_toMathExprs operands, Table.map_map, Table.map_map]
    simp only [ParsedScalar.unsignZeros_toScalar]

theorem ParsedMathExpr.allUnsignZeros_toMathExprs : ∀ es : List ParsedMathExpr,
    MathExpr.allUnsignZeros (ParsedMathExpr.toMathExprs es)
      = ParsedMathExpr.toMathExprs (ParsedMathExpr.allUnsignZeros es)
  | [] => rfl
  | e :: rest => by
    rw [toMathExprs, MathExpr.allUnsignZeros, allUnsignZeros, toMathExprs,
      ParsedMathExpr.unsignZeros_toMathExpr e, ParsedMathExpr.allUnsignZeros_toMathExprs rest]

end

theorem ParsedClause.unsignZeros_toClause (c : ParsedClause) :
    c.toClause.unsignZeros = c.unsignZeros.toClause := by
  unfold toClause Clause.unsignZeros unsignZeros
  simp only [Option.map_map, Function.comp_def, ParsedMathExpr.unsignZeros_toMathExpr]

mutual

theorem ParsedQuery.unsignZeros_toQuery : ∀ p : ParsedQuery,
    p.toQuery.unsignZeros = p.unsignZeros.toQuery
  | ⟨clause, children⟩ => by
    rw [toQuery, Query.unsignZeros, unsignZeros, toQuery, ParsedClause.unsignZeros_toClause,
      ParsedQuery.unsignAllZeros_toQueries children]
    rfl

theorem ParsedQuery.unsignAllZeros_toQueries : ∀ ps : List ParsedQuery,
    Query.unsignAllZeros (ParsedQuery.toQueries ps)
      = ParsedQuery.toQueries (ParsedQuery.unsignAllZeros ps)
  | [] => rfl
  | p :: rest => by
    rw [toQueries, Query.unsignAllZeros, unsignAllZeros, toQueries,
      ParsedQuery.unsignZeros_toQuery p, ParsedQuery.unsignAllZeros_toQueries rest]

end

theorem Scalar.unsignZeros_toParsed (s : Scalar) :
    s.toParsed.unsignZeros = s.unsignZeros.toParsed := rfl

mutual

theorem MathExpr.unsignZeros_toParsed : ∀ e : MathExpr,
    e.toParsed.unsignZeros = e.unsignZeros.toParsed
  | ⟨fn, variableName, constant, values, operands⟩ => by
    rw [toParsed, ParsedMathExpr.unsignZeros, unsignZeros, toParsed,
      MathExpr.allUnsignZeros_allToParsed operands, Table.map_map, Table.map_map]
    simp only [Scalar.unsignZeros_toParsed]

theorem MathExpr.allUnsignZeros_allToParsed : ∀ es : List MathExpr,
    ParsedMathExpr.allUnsignZeros (MathExpr.allToParsed es)
      = MathExpr.allToParsed (MathExpr.allUnsignZeros es)
  | [] => rfl
  | e :: rest => by
    rw [allToParsed, ParsedMathExpr.allUnsignZeros, allUnsignZeros, allToParsed,
      MathExpr.unsignZeros_toParsed e, MathExpr.allUnsignZeros_allToParsed rest]

end

theorem Clause.unsignZeros_toParsed (c : Clause) :
    c.toParsed.unsignZeros = c.unsignZeros.toParsed := by
  unfold toParsed ParsedClause.unsignZeros unsignZeros
  simp only [Option.map_map, Function.comp_def, MathExpr.unsignZeros_toParsed]

mutual

theorem Query.unsignZeros_toParsed : ∀ q : Query, q.toParsed.unsignZeros = q.unsignZeros.toParsed
  | ⟨clause, fallback, children⟩ => by
    rw [toParsed, ParsedQuery.unsignZeros, unsignZeros, toParsed, Clause.unsignZeros_toParsed,
      Query.unsignAllZeros_allToParsed children]

theorem Query.unsignAllZeros_allToParsed : ∀ qs : List Query,
    ParsedQuery.unsignAllZeros (Query.allToParsed qs) = Query.allToParsed (Query.unsignAllZeros qs)
  | [] => rfl
  | q :: rest => by
    rw [allToParsed, ParsedQuery.unsignAllZeros, unsignAllZeros, allToParsed,
      Query.unsignZeros_toParsed q, Query.unsignAllZeros_allToParsed rest]

end

/-! ## The comparison -/

/-- **The comparison in the parser's form**: what was read back is the same as the queries without
fallbacks exactly if the parser's answer, its kinds settled, equals what it would report for them,
up to the signs of zeros. -/
theorem allSame_stripAll_iff {ps : List ParsedQuery} {qs : List Query} :
    Query.allSame (ParsedQuery.toQueries ps) (Query.stripAll qs) = true ↔
      ParsedQuery.unsignAllZeros (ps.map (ParsedQuery.withKinds VariableKind.settle))
        = ParsedQuery.unsignAllZeros (Query.allToParsed qs) := by
  rw [Query.allSame_iff, ← ParsedQuery.allWithKinds_eq_map, ← ParsedQuery.allToParsed_toQueries]
  -- what one side has lost is lost by translating the other side as well
  constructor
  · intro h
    have hparsed := congrArg Query.allToParsed h
    rwa [← Query.unsignAllZeros_allToParsed, ← Query.unsignAllZeros_allToParsed,
      Query.allToParsed_stripAll] at hparsed
  · intro h
    have hquery := congrArg ParsedQuery.toQueries h
    rwa [← ParsedQuery.unsignAllZeros_toQueries, ← ParsedQuery.unsignAllZeros_toQueries,
      Query.toQueries_allToParsed, Query.toQueries_allToParsed,
      ParsedQuery.stripAll_toQueries] at hquery

end Dql
