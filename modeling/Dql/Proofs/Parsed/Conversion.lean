import Dql.Parsed.Conversion
import Dql.Proofs.Table

/-!
# The two forms of a query tree hold the same

`Query.allToParsed` and `ParsedQuery.toQueries` carry a tree from the form it is written in to the
records that the parser reports and back. What each of them can lose is said exactly:

* a query that goes to the parser's records and back has lost its fallbacks and nothing else
  (`Query.toQueries_allToParsed`);
* a parsed tree that goes to the written form and back has every kind that stands for none of the
  three replaced by the one for nodes, and nothing else changed
  (`ParsedQuery.allToParsed_toQueries`), so it is the same tree exactly if there is no such kind in
  it (`allToParsed_toQueries_eq_self_iff`).

Each kind of record has one lemma for each way. A field that one of the translations forgets, or
that they do not agree on, is one that its record does not get back.

What "nothing else" means does not depend on the translations: `ParsedClause.withKinds` updates
the four fields of a clause that hold kinds, in place, and `ParsedQuery.allKinds` lists the kinds
of trees, in the order of the document.
-/

namespace Dql

/-! ## From the written form and back -/

theorem VariableUse.toVariableUse_toParsed (u : VariableUse) : u.toParsed.toVariableUse = u :=
  congrArg (VariableUse.mk u.name) (VariableKind.ofParsed_toParsed u.kind)

theorem Argument.toArgument_toParsed (a : Argument) : a.toParsed.toArgument = a := rfl

theorem Call.toCall_toParsed (c : Call) : c.toParsed.toCall = c := by
  unfold Call.toParsed ParsedCall.toCall
  simp only [List.map_map, Function.comp_def, Argument.toArgument_toParsed,
    VariableUse.toVariableUse_toParsed, List.map_id']

mutual

theorem Filter.toFilter_toParsed : ∀ f : Filter, f.toParsed.toFilter = f
  | ⟨op, operands, call⟩ => by
    rw [Filter.toParsed, ParsedFilter.toFilter, Filter.toFilters_allToParsed operands]
    simp only [Option.map_map, Function.comp_def, Call.toCall_toParsed, Option.map_id']

theorem Filter.toFilters_allToParsed : ∀ fs : List Filter,
    ParsedFilter.toFilters (Filter.allToParsed fs) = fs
  | [] => rfl
  | f :: rest => by
    rw [Filter.allToParsed, ParsedFilter.toFilters, Filter.toFilter_toParsed f,
      Filter.toFilters_allToParsed rest]

end

theorem Scalar.toScalar_toParsed (s : Scalar) : s.toParsed.toScalar = s := rfl

mutual

theorem MathExpr.toMathExpr_toParsed : ∀ e : MathExpr, e.toParsed.toMathExpr = e
  | ⟨fn, variableName, constant, values, operands⟩ => by
    rw [MathExpr.toParsed, ParsedMathExpr.toMathExpr, MathExpr.toMathExprs_allToParsed operands,
      Table.map_map]
    simp only [Scalar.toScalar_toParsed, Table.map_id]

theorem MathExpr.toMathExprs_allToParsed : ∀ es : List MathExpr,
    ParsedMathExpr.toMathExprs (MathExpr.allToParsed es) = es
  | [] => rfl
  | e :: rest => by
    rw [MathExpr.allToParsed, ParsedMathExpr.toMathExprs, MathExpr.toMathExpr_toParsed e,
      MathExpr.toMathExprs_allToParsed rest]

end

theorem Order.toOrder_toParsed (o : Order) : o.toParsed.toOrder = o := rfl

theorem FacetKey.toFacetKey_toParsed (k : FacetKey) : k.toParsed.toFacetKey = k := rfl

theorem FacetRequest.toFacetRequest_toParsed (r : FacetRequest) :
    r.toParsed.toFacetRequest = r := by
  unfold FacetRequest.toParsed ParsedFacetRequest.toFacetRequest
  simp only [List.map_map, Function.comp_def, FacetKey.toFacetKey_toParsed, List.map_id']

theorem GroupKey.toGroupKey_toParsed (g : GroupKey) : g.toParsed.toGroupKey = g := rfl

theorem Clause.toClause_toParsed (c : Clause) : c.toParsed.toClause = c := by
  unfold Clause.toParsed ParsedClause.toClause
  simp only [List.map_map, Option.map_map, Function.comp_def, VariableUse.toVariableUse_toParsed,
    Call.toCall_toParsed, Order.toOrder_toParsed, Filter.toFilter_toParsed,
    MathExpr.toMathExpr_toParsed, FacetRequest.toFacetRequest_toParsed,
    GroupKey.toGroupKey_toParsed, List.map_id', Option.map_id']

mutual

theorem Query.toQuery_toParsed : ∀ q : Query, q.toParsed.toQuery = q.stripFallbacks
  | ⟨clause, fallback, children⟩ => by
    rw [Query.toParsed, ParsedQuery.toQuery, Query.stripFallbacks, Clause.toClause_toParsed,
      Query.toQueries_allToParsed children]

theorem Query.toQueries_allToParsed : ∀ qs : List Query,
    ParsedQuery.toQueries (Query.allToParsed qs) = Query.stripAll qs
  | [] => rfl
  | q :: rest => by
    rw [Query.allToParsed, ParsedQuery.toQueries, Query.stripAll, Query.toQuery_toParsed q,
      Query.toQueries_allToParsed rest]

end

/-! ## Replacing kinds in place -/

/-- A use with its kind replaced. -/
def ParsedVariableUse.withKind (f : Int32 → Int32) (u : ParsedVariableUse) : ParsedVariableUse :=
  { u with kind := f u.kind }

/-- A call with the kinds in it replaced. -/
def ParsedCall.withKinds (f : Int32 → Int32) (c : ParsedCall) : ParsedCall :=
  { c with uses := c.uses.map (ParsedVariableUse.withKind f) }

mutual

/-- A filter with the kinds in it replaced. -/
def ParsedFilter.withKinds (f : Int32 → Int32) : ParsedFilter → ParsedFilter
  | ⟨op, operands, call⟩ =>
    ⟨op, ParsedFilter.allWithKinds f operands, call.map (ParsedCall.withKinds f)⟩

/-- Filters with the kinds in them replaced. -/
def ParsedFilter.allWithKinds (f : Int32 → Int32) : List ParsedFilter → List ParsedFilter
  | [] => []
  | t :: rest => t.withKinds f :: ParsedFilter.allWithKinds f rest

end

/-- A clause with the kinds in it replaced: those of its own variables, of its call
and of its two filters. -/
def ParsedClause.withKinds (f : Int32 → Int32) (c : ParsedClause) : ParsedClause :=
  { c with
    uses := c.uses.map (ParsedVariableUse.withKind f)
    call := c.call.map (ParsedCall.withKinds f)
    filter := c.filter.map (ParsedFilter.withKinds f)
    facetFilter := c.facetFilter.map (ParsedFilter.withKinds f) }

mutual

/-- A node with the kinds in it replaced, at any depth. -/
def ParsedQuery.withKinds (f : Int32 → Int32) : ParsedQuery → ParsedQuery
  | ⟨clause, children⟩ => ⟨clause.withKinds f, ParsedQuery.allWithKinds f children⟩

/-- Nodes with the kinds in them replaced. -/
def ParsedQuery.allWithKinds (f : Int32 → Int32) : List ParsedQuery → List ParsedQuery
  | [] => []
  | p :: rest => p.withKinds f :: ParsedQuery.allWithKinds f rest

end

theorem ParsedQuery.allWithKinds_eq_map (f : Int32 → Int32) (ps : List ParsedQuery) :
    ParsedQuery.allWithKinds f ps = ps.map (ParsedQuery.withKinds f) := by
  induction ps with
  | nil => rfl
  | cons p rest ih => rw [ParsedQuery.allWithKinds, ih]; rfl

/-! ## From the parser and back -/

/-- The number of a kind that stands for one of the three, else the number of a set
of nodes. -/
def VariableKind.settle (n : Int32) : Int32 := if n = 1 ∨ n = 2 ∨ n = 3 then n else 1

theorem VariableKind.toParsed_ofParsed (n : Int32) : (ofParsed n).toParsed = settle n := by
  unfold ofParsed settle
  by_cases h2 : n = 2
  · subst h2
    decide
  · by_cases h3 : n = 3
    · subst h3
      decide
    · rw [if_neg h2, if_neg h3]
      by_cases h1 : n = 1
      · subst h1
        decide
      · rw [if_neg (by rintro (h | h | h) <;> contradiction)]
        decide

theorem VariableKind.settle_eq_self_iff {n : Int32} : settle n = n ↔ n = 1 ∨ n = 2 ∨ n = 3 := by
  unfold settle
  split
  next h => exact iff_of_true rfl h
  next h => exact iff_of_false (fun he => h (Or.inl he.symm)) h

open VariableKind (settle)

theorem ParsedVariableUse.toParsed_toVariableUse (u : ParsedVariableUse) :
    u.toVariableUse.toParsed = u.withKind settle :=
  congrArg (ParsedVariableUse.mk u.name) (VariableKind.toParsed_ofParsed u.kind)

theorem ParsedArgument.toParsed_toArgument (a : ParsedArgument) : a.toArgument.toParsed = a := rfl

theorem ParsedCall.toParsed_toCall (c : ParsedCall) : c.toCall.toParsed = c.withKinds settle := by
  unfold ParsedCall.toCall Call.toParsed ParsedCall.withKinds
  simp only [List.map_map, Function.comp_def, ParsedArgument.toParsed_toArgument,
    ParsedVariableUse.toParsed_toVariableUse, List.map_id']

mutual

theorem ParsedFilter.toParsed_toFilter : ∀ f : ParsedFilter,
    f.toFilter.toParsed = f.withKinds settle
  | ⟨op, operands, call⟩ => by
    rw [ParsedFilter.toFilter, Filter.toParsed, ParsedFilter.withKinds,
      ParsedFilter.allToParsed_toFilters operands]
    simp only [Option.map_map, Function.comp_def, ParsedCall.toParsed_toCall]

theorem ParsedFilter.allToParsed_toFilters : ∀ fs : List ParsedFilter,
    Filter.allToParsed (ParsedFilter.toFilters fs) = ParsedFilter.allWithKinds settle fs
  | [] => rfl
  | f :: rest => by
    rw [ParsedFilter.toFilters, Filter.allToParsed, ParsedFilter.allWithKinds,
      ParsedFilter.toParsed_toFilter f, ParsedFilter.allToParsed_toFilters rest]

end

theorem ParsedScalar.toParsed_toScalar (s : ParsedScalar) : s.toScalar.toParsed = s := rfl

mutual

theorem ParsedMathExpr.toParsed_toMathExpr : ∀ e : ParsedMathExpr, e.toMathExpr.toParsed = e
  | ⟨fn, variableName, constant, values, operands⟩ => by
    rw [ParsedMathExpr.toMathExpr, MathExpr.toParsed,
      ParsedMathExpr.allToParsed_toMathExprs operands, Table.map_map]
    simp only [ParsedScalar.toParsed_toScalar, Table.map_id]

theorem ParsedMathExpr.allToParsed_toMathExprs : ∀ es : List ParsedMathExpr,
    MathExpr.allToParsed (ParsedMathExpr.toMathExprs es) = es
  | [] => rfl
  | e :: rest => by
    rw [ParsedMathExpr.toMathExprs, MathExpr.allToParsed, ParsedMathExpr.toParsed_toMathExpr e,
      ParsedMathExpr.allToParsed_toMathExprs rest]

end

theorem ParsedOrder.toParsed_toOrder (o : ParsedOrder) : o.toOrder.toParsed = o := rfl

theorem ParsedFacetKey.toParsed_toFacetKey (k : ParsedFacetKey) : k.toFacetKey.toParsed = k := rfl

theorem ParsedFacetRequest.toParsed_toFacetRequest (r : ParsedFacetRequest) :
    r.toFacetRequest.toParsed = r := by
  unfold ParsedFacetRequest.toFacetRequest FacetRequest.toParsed
  simp only [List.map_map, Function.comp_def, ParsedFacetKey.toParsed_toFacetKey, List.map_id']

theorem ParsedGroupKey.toParsed_toGroupKey (g : ParsedGroupKey) : g.toGroupKey.toParsed = g := rfl

theorem ParsedClause.toParsed_toClause (c : ParsedClause) :
    c.toClause.toParsed = c.withKinds settle := by
  unfold ParsedClause.toClause Clause.toParsed ParsedClause.withKinds
  simp only [List.map_map, Option.map_map, Function.comp_def,
    ParsedVariableUse.toParsed_toVariableUse, ParsedCall.toParsed_toCall,
    ParsedOrder.toParsed_toOrder, ParsedFilter.toParsed_toFilter,
    ParsedMathExpr.toParsed_toMathExpr, ParsedFacetRequest.toParsed_toFacetRequest,
    ParsedGroupKey.toParsed_toGroupKey, List.map_id', Option.map_id']

mutual

theorem ParsedQuery.toParsed_toQuery : ∀ p : ParsedQuery, p.toQuery.toParsed = p.withKinds settle
  | ⟨clause, children⟩ => by
    rw [ParsedQuery.toQuery, Query.toParsed, ParsedQuery.withKinds, ParsedClause.toParsed_toClause,
      ParsedQuery.allToParsed_toQueries children]

theorem ParsedQuery.allToParsed_toQueries : ∀ ps : List ParsedQuery,
    Query.allToParsed (ParsedQuery.toQueries ps) = ParsedQuery.allWithKinds settle ps
  | [] => rfl
  | p :: rest => by
    rw [ParsedQuery.toQueries, Query.allToParsed, ParsedQuery.allWithKinds,
      ParsedQuery.toParsed_toQuery p, ParsedQuery.allToParsed_toQueries rest]

end

/-! ## Fallbacks between the forms -/

mutual

/-- What a parsed tree stands for has no fallbacks. -/
theorem ParsedQuery.stripFallbacks_toQuery : ∀ p : ParsedQuery,
    p.toQuery.stripFallbacks = p.toQuery
  | ⟨clause, children⟩ => by
    rw [ParsedQuery.toQuery, Query.stripFallbacks, ParsedQuery.stripAll_toQueries children]

theorem ParsedQuery.stripAll_toQueries : ∀ ps : List ParsedQuery,
    Query.stripAll (ParsedQuery.toQueries ps) = ParsedQuery.toQueries ps
  | [] => rfl
  | p :: rest => by
    rw [ParsedQuery.toQueries, Query.stripAll, ParsedQuery.stripFallbacks_toQuery p,
      ParsedQuery.stripAll_toQueries rest]

end

mutual

/-- The parser's form of a query has no room for fallbacks. -/
theorem Query.toParsed_stripFallbacks : ∀ q : Query, q.stripFallbacks.toParsed = q.toParsed
  | ⟨clause, fallback, children⟩ => by
    rw [Query.stripFallbacks, Query.toParsed, Query.toParsed, Query.allToParsed_stripAll children]

theorem Query.allToParsed_stripAll : ∀ qs : List Query,
    Query.allToParsed (Query.stripAll qs) = Query.allToParsed qs
  | [] => rfl
  | q :: rest => by
    rw [Query.stripAll, Query.allToParsed, Query.allToParsed, Query.toParsed_stripFallbacks q,
      Query.allToParsed_stripAll rest]

end

/-! ## The kinds of a tree -/

/-- The kinds in a call. -/
def ParsedCall.kinds (c : ParsedCall) : List Int32 := c.uses.map (·.kind)

mutual

/-- The kinds in a filter. -/
def ParsedFilter.kinds : ParsedFilter → List Int32
  | ⟨_, operands, call⟩ => (call.map ParsedCall.kinds).getD [] ++ ParsedFilter.allKinds operands

/-- The kinds in filters. -/
def ParsedFilter.allKinds : List ParsedFilter → List Int32
  | [] => []
  | t :: rest => t.kinds ++ ParsedFilter.allKinds rest

end

/-- The kinds in a clause. -/
def ParsedClause.kinds (c : ParsedClause) : List Int32 :=
  c.uses.map (·.kind) ++ (c.call.map ParsedCall.kinds).getD [] ++
    (c.filter.map ParsedFilter.kinds).getD [] ++ (c.facetFilter.map ParsedFilter.kinds).getD []

mutual

/-- The kinds in a node, at any depth. -/
def ParsedQuery.kinds : ParsedQuery → List Int32
  | ⟨clause, children⟩ => clause.kinds ++ ParsedQuery.allKinds children

/-- The kinds in nodes. -/
def ParsedQuery.allKinds : List ParsedQuery → List Int32
  | [] => []
  | p :: rest => p.kinds ++ ParsedQuery.allKinds rest

end

/-- A list is unchanged exactly if each of its members is. -/
theorem map_eq_self_iff_forall {α : Type} {f : α → α} {xs : List α} :
    xs.map f = xs ↔ ∀ x ∈ xs, f x = x := by
  constructor
  · intro h x hx
    exact List.map_eq_map_iff.1 (h.trans (List.map_id' xs).symm) x hx
  · intro h
    exact (List.map_congr_left h).trans (List.map_id' xs)

section Unchanged

variable {f : Int32 → Int32}

theorem ParsedVariableUse.map_withKind_eq_self_iff {us : List ParsedVariableUse} :
    us.map (ParsedVariableUse.withKind f) = us ↔ ∀ k ∈ us.map (·.kind), f k = k := by
  rw [map_eq_self_iff_forall, List.forall_mem_map]
  refine forall₂_congr fun u _ => ?_
  constructor
  · intro h
    exact congrArg ParsedVariableUse.kind h
  · intro h
    unfold ParsedVariableUse.withKind
    rw [h]

theorem ParsedCall.withKinds_eq_self_iff {c : ParsedCall} :
    c.withKinds f = c ↔ ∀ k ∈ c.kinds, f k = k := by
  rw [ParsedCall.kinds, ← ParsedVariableUse.map_withKind_eq_self_iff]
  constructor
  · intro h
    exact congrArg ParsedCall.uses h
  · intro h
    unfold ParsedCall.withKinds
    rw [h]

/-- What is there or not is unchanged exactly if what is there is, in terms of the
kinds in it. -/
theorem optionMap_eq_self_iff_kinds {α : Type} {g : α → α} {kinds : α → List Int32}
    (h : ∀ x, g x = x ↔ ∀ k ∈ kinds x, f k = k) (o : Option α) :
    o.map g = o ↔ ∀ k ∈ (o.map kinds).getD [], f k = k := by
  cases o with
  | none => simp
  | some x => simp [h x]

mutual

theorem ParsedFilter.withKinds_eq_self_iff :
    ∀ t : ParsedFilter, t.withKinds f = t ↔ ∀ k ∈ t.kinds, f k = k
  | ⟨op, operands, call⟩ => by
    -- the call comes first among the kinds of a filter, and last among its fields
    have hcall := optionMap_eq_self_iff_kinds (f := f)
      (fun c : ParsedCall => ParsedCall.withKinds_eq_self_iff) call
    have hoperands := ParsedFilter.allWithKinds_eq_self_iff operands
    rw [ParsedFilter.withKinds, ParsedFilter.kinds, ParsedFilter.mk.injEq, List.forall_mem_append,
      ← hcall, ← hoperands]
    constructor
    · rintro ⟨-, h1, h2⟩
      exact ⟨h2, h1⟩
    · rintro ⟨h2, h1⟩
      exact ⟨rfl, h1, h2⟩

theorem ParsedFilter.allWithKinds_eq_self_iff :
    ∀ ts : List ParsedFilter,
      ParsedFilter.allWithKinds f ts = ts ↔ ∀ k ∈ ParsedFilter.allKinds ts, f k = k
  | [] => by simp [ParsedFilter.allWithKinds, ParsedFilter.allKinds]
  | t :: rest => by
    rw [ParsedFilter.allWithKinds, ParsedFilter.allKinds, List.cons.injEq, List.forall_mem_append,
      ParsedFilter.withKinds_eq_self_iff t, ParsedFilter.allWithKinds_eq_self_iff rest]

end

theorem ParsedClause.withKinds_eq_self_iff {c : ParsedClause} :
    c.withKinds f = c ↔ ∀ k ∈ c.kinds, f k = k := by
  have huses : c.uses.map (ParsedVariableUse.withKind f) = c.uses ↔
      ∀ k ∈ c.uses.map (·.kind), f k = k := ParsedVariableUse.map_withKind_eq_self_iff
  have hcall := optionMap_eq_self_iff_kinds (f := f)
    (fun c : ParsedCall => ParsedCall.withKinds_eq_self_iff) c.call
  have hfilter := optionMap_eq_self_iff_kinds (f := f) ParsedFilter.withKinds_eq_self_iff c.filter
  have hfacet := optionMap_eq_self_iff_kinds (f := f) ParsedFilter.withKinds_eq_self_iff
    c.facetFilter
  rw [ParsedClause.kinds, List.forall_mem_append, List.forall_mem_append, List.forall_mem_append,
    ← huses, ← hcall, ← hfilter, ← hfacet]
  constructor
  · -- only four of the fields hold kinds, and the others are the same on both sides
    intro h
    exact ⟨⟨⟨congrArg ParsedClause.uses h, congrArg ParsedClause.call h⟩,
      congrArg ParsedClause.filter h⟩, congrArg ParsedClause.facetFilter h⟩
  · rintro ⟨⟨⟨h1, h2⟩, h3⟩, h4⟩
    unfold ParsedClause.withKinds
    rw [h1, h2, h3, h4]

mutual

theorem ParsedQuery.withKinds_eq_self_iff :
    ∀ p : ParsedQuery, p.withKinds f = p ↔ ∀ k ∈ p.kinds, f k = k
  | ⟨clause, children⟩ => by
    rw [ParsedQuery.withKinds, ParsedQuery.kinds, ParsedQuery.mk.injEq, List.forall_mem_append,
      ParsedClause.withKinds_eq_self_iff, ParsedQuery.allWithKinds_eq_self_iff children]

/-- Replacing kinds changes nothing exactly if it leaves every kind in the nodes. -/
theorem ParsedQuery.allWithKinds_eq_self_iff :
    ∀ ps : List ParsedQuery,
      ParsedQuery.allWithKinds f ps = ps ↔ ∀ k ∈ ParsedQuery.allKinds ps, f k = k
  | [] => by simp [ParsedQuery.allWithKinds, ParsedQuery.allKinds]
  | p :: rest => by
    rw [ParsedQuery.allWithKinds, ParsedQuery.allKinds, List.cons.injEq, List.forall_mem_append,
      ParsedQuery.withKinds_eq_self_iff p, ParsedQuery.allWithKinds_eq_self_iff rest]

end

end Unchanged

/-! ## There and back -/

/-- Parsed trees come back as they were exactly if every kind in them is one of the
three. -/
theorem allToParsed_toQueries_eq_self_iff (ps : List ParsedQuery) :
    Query.allToParsed (ParsedQuery.toQueries ps) = ps
      ↔ ∀ k ∈ ParsedQuery.allKinds ps, k = 1 ∨ k = 2 ∨ k = 3 := by
  rw [ParsedQuery.allToParsed_toQueries, ParsedQuery.allWithKinds_eq_self_iff]
  exact forall₂_congr fun k _ => VariableKind.settle_eq_self_iff

/-- **The two forms hold the same**: from the written form to the parser's and back
only fallbacks are lost, the other way round only kinds that stand for none of the
three, and without such kinds nothing at all. -/
theorem conversions_inverse :
    (∀ qs : List Query,
      ParsedQuery.toQueries (Query.allToParsed qs) = qs.map Query.stripFallbacks) ∧
    (∀ ps : List ParsedQuery,
      Query.allToParsed (ParsedQuery.toQueries ps)
        = ps.map (ParsedQuery.withKinds VariableKind.settle)) ∧
    (∀ ps : List ParsedQuery,
      Query.allToParsed (ParsedQuery.toQueries ps) = ps
        ↔ ∀ k ∈ ParsedQuery.allKinds ps, k = 1 ∨ k = 2 ∨ k = 3) := by
  refine ⟨fun qs => ?_, fun ps => ?_, allToParsed_toQueries_eq_self_iff⟩
  · rw [Query.toQueries_allToParsed, Query.stripAll_eq_map]
  · rw [ParsedQuery.allToParsed_toQueries, ParsedQuery.allWithKinds_eq_map]

end Dql
