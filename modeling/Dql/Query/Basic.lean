import Dql.Json.Basic
import Dql.Table
import Dql.Uid

/-!
# Query trees

A query is a tree of nodes. Each node has a clause, which says what the node
asks for, and the nodes nested below it. Nodes refer to each other by variable
name only, so a tree is self-contained. A block is an ordered list of root
queries that are sent together.

This is the form that queries are written in: the kind of a variable is one of three,
and a node may carry a fallback for results that the store leaves out. The parser of
the query language reports trees in records of its own (`ParsedQuery`).
-/

namespace Dql

/-- What the values of a variable are. -/
inductive VariableKind where
  /-- A set of nodes, `L as friends`. -/
  | nodes
  /-- Scalars, `a as age`. -/
  | values
  /-- A list of predicates, `l as _predicate_`. -/
  | predicates
deriving DecidableEq, Repr, Inhabited

/-- The number that stands for a kind where kinds are exchanged. -/
def VariableKind.code : VariableKind → Nat
  | nodes => 1
  | values => 2
  | predicates => 3

/-- The kind that a number stands for. -/
def VariableKind.ofCode? : Nat → Option VariableKind
  | 1 => some nodes
  | 2 => some values
  | 3 => some predicates
  | _ => none

/-- A variable that a node or a call consumes. -/
structure VariableUse where
  name : String
  kind : VariableKind
deriving DecidableEq, Repr

/-- An argument of a call. -/
structure Argument where
  /-- The text of a literal, or the name of a variable. -/
  value : String := ""
  /-- The argument is `val(value)`. -/
  isValueVariable : Bool := false
  /-- The argument names a variable of the request and is written without quotes. -/
  isRequestVariable : Bool := false
deriving DecidableEq, Repr

/-- A call: the function that generates a node, or a leaf of a filter. -/
structure Call where
  attr : String := ""
  lang : String := ""
  name : String := ""
  arguments : List Argument := []
  ids : List Uid := []
  uses : List VariableUse := []
  /-- The attribute is counted, `gt(count(friends), 10)`. -/
  isCount : Bool := false
  /-- The attribute is the value of a variable, `eq(val(s), 5)`. -/
  isValueVariable : Bool := false
deriving DecidableEq

/-- A boolean combination of calls, as it is written down: an operator over
operands, or a call. Nothing keeps both or neither from being there; what a
filter amounts to is its `Filter.form`. -/
structure Filter where
  op : String := ""
  operands : List Filter := []
  call : Option Call := none

/-- What a filter amounts to at its top. -/
inductive Filter.Form where
  | leaf (call : Call)
  | connective (op : String) (operands : List Filter)
  /-- Both an operator and a call are given. -/
  | ambiguous
  /-- Neither is given. -/
  | empty

/-- What a filter amounts to at its top. -/
def Filter.form (f : Filter) : Filter.Form :=
  match f.call, f.op.isEmpty with
  | some _, false => .ambiguous
  | some call, true => .leaf call
  | none, false => .connective f.op f.operands
  | none, true => .empty

/-- Whether a filter has neither operator nor call. -/
def Filter.isEmpty (f : Filter) : Bool := f.call.isNone && f.op.isEmpty

/-- A typed scalar. -/
structure Scalar where
  typeId : Int32 := 0
  value : Json := .null

/-- Whether a scalar says nothing: no type and no value. -/
def Scalar.isEmpty (s : Scalar) : Bool := s.typeId == 0 && s.value.isNull

/-- A mathematical expression in prefix form. -/
structure MathExpr where
  /-- The operator or function; empty for an operand. -/
  fn : String := ""
  variableName : String := ""
  constant : Scalar := {}
  /-- The values by node, known only while the store runs the expression. -/
  values : Table Uid Scalar := .empty
  operands : List MathExpr := []

/-- Whether an expression is an operand: a constant or a variable. -/
def MathExpr.isOperand (e : MathExpr) : Bool := e.fn.isEmpty

/-- An ordering of a node's results. -/
structure Order where
  attr : String := ""
  descending : Bool := false
  langs : List String := []
deriving DecidableEq, Repr

/-- The keyword of an ordering. -/
def directionWord (descending : Bool) : String := if descending then "orderdesc" else "orderasc"

/-- The keyword of an ordering. -/
def Order.direction (o : Order) : String := directionWord o.descending

/-- A facet that a node asks for, and the name it is reported under. -/
structure FacetKey where
  key : String := ""
  aliasName : String := ""
deriving DecidableEq, Repr

/-- The facets that a node asks for. -/
structure FacetRequest where
  allKeys : Bool := false
  keys : List FacetKey := []
deriving DecidableEq, Repr

/-- An attribute that results are grouped by. -/
structure GroupKey where
  attr : String := ""
  aliasName : String := ""
  langs : List String := []
deriving DecidableEq, Repr

/-- What a node asks for. -/
structure Clause where
  ids : List Uid := []
  attr : String := ""
  langs : List String := []
  aliasName : String := ""
  isCount : Bool := false
  isInternal : Bool := false
  isGroupBy : Bool := false
  /-- The variable that the node's results are bound to. -/
  variableName : String := ""
  uses : List VariableUse := []
  call : Option Call := none
  expand : String := ""
  arguments : Table String String := .empty
  orders : List Order := []
  filter : Option Filter := none
  math : Option MathExpr := none
  normalize : Bool := false
  recurse : Bool := false
  cascade : Bool := false
  ignoreReflex : Bool := false
  facets : Option FacetRequest := none
  facetFilter : Option Filter := none
  /-- The variables that facets are bound to, by facet key. -/
  facetVariables : Table String String := .empty
  facetOrder : String := ""
  facetDescending : Bool := false
  groupKeys : List GroupKey := []

/-- A node: what it asks for, what stands in for a result that the store leaves out, and
the nodes nested below. -/
structure Query where
  clause : Clause := {}
  fallback : Option Json := none
  children : List Query := []

/-- Root queries that are rendered together as one request. -/
structure Block where
  queries : List Query := []
  /-- The name of the operation, if it has one. -/
  aliasName : String := ""
  /-- The types of the request's variables, by name. -/
  variableTypes : Table String String := .empty

namespace Clause

/-- The name that results appear under: the alias, else the attribute. -/
def resultName (c : Clause) : String := if c.aliasName.isEmpty then c.attr else c.aliasName

/-- The name that errors call the node by: its result name, else the name of its call. -/
def label (c : Clause) : String :=
  if c.resultName.isEmpty then (c.call.map (·.name)).getD "" else c.resultName

/-- The kind of each variable that the clause itself uses; the last use of a name decides. -/
def useKinds (c : Clause) : Table String VariableKind :=
  .ofList (c.uses.map fun u => (u.name, u.kind))

end Clause

namespace Query

/-- The name that the node's results appear under. -/
def resultName (q : Query) : String := q.clause.resultName

/-- Whether a node is written inline rather than as a block of its own. -/
def isInline (q : Query) : Bool := q.clause.isInternal || q.children.isEmpty

end Query

mutual

/-- The query without fallbacks, at any depth. A fallback has no textual form, so
it is removed before a tree is compared with one that was read from text. -/
def Query.stripFallbacks : Query → Query
  | ⟨clause, _, children⟩ => ⟨clause, none, Query.stripAll children⟩

/-- The queries of a list without fallbacks. -/
def Query.stripAll : List Query → List Query
  | [] => []
  | q :: rest => q.stripFallbacks :: Query.stripAll rest

end

/-- Stripping a list strips its members. -/
theorem Query.stripAll_eq_map (qs : List Query) :
    Query.stripAll qs = qs.map Query.stripFallbacks := by
  induction qs with
  | nil => rfl
  | cons q rest ih => rw [Query.stripAll, ih]; rfl

end Dql
