import Dql.Query.Basic

/-!
# Equality of query trees

Two trees are the same if all their fields agree, children in order. The numbers
in mathematical constants and fallbacks count as JSON numbers do: an integer and
a double are never the same, zero is the same whatever its sign.
-/

namespace Dql

mutual

/-- The same filter. -/
def Filter.same : Filter → Filter → Bool
  | ⟨op, operands, call⟩, ⟨op', operands', call'⟩ =>
    op == op' && Filter.allSame operands operands' && call == call'

/-- The same filters, one by one. -/
def Filter.allSame : List Filter → List Filter → Bool
  | [], [] => true
  | f :: fs, g :: gs => f.same g && Filter.allSame fs gs
  | _, _ => false

end

/-- The same scalar. -/
def Scalar.same (s t : Scalar) : Bool := s.typeId == t.typeId && s.value.same t.value

/-- The same bindings of scalars, one by one. -/
def Scalar.sameEntries : List (Uid × Scalar) → List (Uid × Scalar) → Bool
  | [], [] => true
  | (k, s) :: ss, (l, t) :: ts => k == l && s.same t && Scalar.sameEntries ss ts
  | _, _ => false

mutual

/-- The same expression. -/
def MathExpr.same : MathExpr → MathExpr → Bool
  | ⟨fn, name, constant, values, operands⟩, ⟨fn', name', constant', values', operands'⟩ =>
    fn == fn' && name == name' && constant.same constant' &&
      Scalar.sameEntries values.entries values'.entries && MathExpr.allSame operands operands'

/-- The same expressions, one by one. -/
def MathExpr.allSame : List MathExpr → List MathExpr → Bool
  | [], [] => true
  | e :: es, f :: fs => e.same f && MathExpr.allSame es fs
  | _, _ => false

end

/-- Whether both are missing, or both are there and stand in a relation. -/
def sameOption {α : Type} (same : α → α → Bool) : Option α → Option α → Bool
  | none, none => true
  | some x, some y => same x y
  | _, _ => false

/-- The same clause. -/
def Clause.same (c d : Clause) : Bool :=
  c.ids == d.ids && c.attr == d.attr && c.langs == d.langs && c.aliasName == d.aliasName &&
  c.isCount == d.isCount && c.isInternal == d.isInternal && c.isGroupBy == d.isGroupBy &&
  c.variableName == d.variableName && c.uses == d.uses && c.call == d.call &&
  c.expand == d.expand && c.arguments == d.arguments && c.orders == d.orders &&
  sameOption Filter.same c.filter d.filter && sameOption MathExpr.same c.math d.math &&
  c.normalize == d.normalize && c.recurse == d.recurse && c.cascade == d.cascade &&
  c.ignoreReflex == d.ignoreReflex && c.facets == d.facets &&
  sameOption Filter.same c.facetFilter d.facetFilter &&
  c.facetVariables == d.facetVariables && c.facetOrder == d.facetOrder &&
  c.facetDescending == d.facetDescending && c.groupKeys == d.groupKeys

mutual

/-- The same query, its fallbacks included. -/
def Query.same : Query → Query → Bool
  | ⟨clause, fallback, children⟩, ⟨clause', fallback', children'⟩ =>
    clause.same clause' && sameOption Json.same fallback fallback' &&
      Query.allSame children children'

/-- The same queries, one by one. -/
def Query.allSame : List Query → List Query → Bool
  | [], [] => true
  | q :: qs, r :: rs => q.same r && Query.allSame qs rs
  | _, _ => false

end

end Dql
