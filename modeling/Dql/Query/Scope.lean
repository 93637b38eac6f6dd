import Dql.Query.Basic
import Dql.Render.Error

/-!
# Variables of a block

A node may bind its results, and each of its facets, to a variable. Every node of
the block may then use that variable, wherever it stands. `Scope.declared` lists
the names that a block declares, `Scope.references` the uses with the node that
makes them, both in the order of the document. `Scope.check` refuses a block in
which a use names nothing that is declared, and reports the first such use.
-/

namespace Dql.Scope

/-! ## Declarations -/

/-- The names that a clause itself declares: its variable, and those of its facets. -/
def ofClause (c : Clause) : List String :=
  (if c.variableName.isEmpty then [] else [c.variableName]) ++ c.facetVariables.values

mutual

/-- The names that a query declares. -/
def ofQuery : Query → List String
  | ⟨clause, _, children⟩ => ofClause clause ++ declared children

/-- The names that queries declare. -/
def declared : List Query → List String
  | [] => []
  | q :: rest => ofQuery q ++ declared rest

end

/-! ## References -/

/-- A use of a variable, and the name of the node that makes it. -/
structure Reference where
  node : String
  name : String
deriving DecidableEq, Repr

/-- The names that a call uses: its variables, then its arguments that are values
of variables. -/
def namesInCall (c : Call) : List String :=
  c.uses.map (·.name) ++ (c.arguments.filter (·.isValueVariable)).map (·.value)

mutual

/-- The names that a filter uses. -/
def namesInFilter : Filter → List String
  | ⟨_, operands, call⟩ => (call.map namesInCall).getD [] ++ namesInFilters operands

/-- The names that filters use. -/
def namesInFilters : List Filter → List String
  | [] => []
  | f :: rest => namesInFilter f ++ namesInFilters rest

end

mutual

/-- The names that an expression uses. -/
def namesInMath : MathExpr → List String
  | ⟨fn, name, _, _, operands⟩ =>
    (if fn.isEmpty && !name.isEmpty then [name] else []) ++ namesInMaths operands

/-- The names that expressions use. -/
def namesInMaths : List MathExpr → List String
  | [] => []
  | e :: rest => namesInMath e ++ namesInMaths rest

end

/-- The names that a clause itself uses: its own variables, then those of its
call, its filter, its facet filter and its expression. -/
def namesInClause (c : Clause) : List String :=
  c.uses.map (·.name) ++ (c.call.map namesInCall).getD [] ++
    (c.filter.map namesInFilter).getD [] ++ (c.facetFilter.map namesInFilter).getD [] ++
    (c.math.map namesInMath).getD []

mutual

/-- The references that a query makes. -/
def referencesOf : Query → List Reference
  | ⟨clause, _, children⟩ =>
    (namesInClause clause).map (⟨clause.label, ·⟩) ++ references children

/-- The references that queries make. -/
def references : List Query → List Reference
  | [] => []
  | q :: rest => referencesOf q ++ references rest

end

/-! ## The check -/

/-- Refuses queries that use a name outside of a scope, with the first such use. -/
def checkIn (scope : List String) (queries : List Query) :
    Except RenderError Unit :=
  match (references queries).find? fun r => !scope.contains r.name with
  | some r => .error (.undefinedVariable r.node r.name)
  | none => .ok ()

/-- Refuses queries that use a name which none of them declares. -/
def check (queries : List Query) : Except RenderError Unit :=
  checkIn (declared queries) queries

end Dql.Scope
