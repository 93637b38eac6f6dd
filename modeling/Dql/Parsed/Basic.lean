import Dql.Json.Basic
import Dql.Table
import Dql.Uid

/-!
# Trees as the parser reports them

The parser of the query language is not part of this library. It reports a query in records of
its own, which say what a query can say and are no more than that: a kind is whatever number the
parser gives, and there is no room for fallbacks. What these records have in common with those of
queries is a matter of translation (`ParsedQuery.toQueries`, `Query.allToParsed`), so that either
form may change without the other.
-/

namespace Dql

/-- A variable that a node or a call consumes. -/
structure ParsedVariableUse where
  name : String := ""
  kind : Int32 := 0

/-- An argument of a call. -/
structure ParsedArgument where
  value : String := ""
  isValueVariable : Bool := false
  isRequestVariable : Bool := false

/-- A call: the function that generates a node, or a leaf of a filter. -/
structure ParsedCall where
  attr : String := ""
  lang : String := ""
  name : String := ""
  arguments : List ParsedArgument := []
  ids : List Uid := []
  uses : List ParsedVariableUse := []
  isCount : Bool := false
  isValueVariable : Bool := false

/-- A boolean combination of calls. -/
structure ParsedFilter where
  op : String := ""
  operands : List ParsedFilter := []
  call : Option ParsedCall := none

/-- A typed scalar. -/
structure ParsedScalar where
  typeId : Int32 := 0
  value : Json := .null

/-- A mathematical expression in prefix form. -/
structure ParsedMathExpr where
  fn : String := ""
  variableName : String := ""
  constant : ParsedScalar := {}
  values : Table Uid ParsedScalar := .empty
  operands : List ParsedMathExpr := []

/-- An ordering of a node's results. -/
structure ParsedOrder where
  attr : String := ""
  descending : Bool := false
  langs : List String := []

/-- A facet that a node asks for. -/
structure ParsedFacetKey where
  key : String := ""
  aliasName : String := ""

/-- The facets that a node asks for. -/
structure ParsedFacetRequest where
  allKeys : Bool := false
  keys : List ParsedFacetKey := []

/-- An attribute that results are grouped by. -/
structure ParsedGroupKey where
  attr : String := ""
  aliasName : String := ""
  langs : List String := []

/-- What a node asks for. -/
structure ParsedClause where
  ids : List Uid := []
  attr : String := ""
  langs : List String := []
  aliasName : String := ""
  isCount : Bool := false
  isInternal : Bool := false
  isGroupBy : Bool := false
  variableName : String := ""
  uses : List ParsedVariableUse := []
  call : Option ParsedCall := none
  expand : String := ""
  arguments : Table String String := .empty
  orders : List ParsedOrder := []
  filter : Option ParsedFilter := none
  math : Option ParsedMathExpr := none
  normalize : Bool := false
  recurse : Bool := false
  cascade : Bool := false
  ignoreReflex : Bool := false
  facets : Option ParsedFacetRequest := none
  facetFilter : Option ParsedFilter := none
  groupKeys : List ParsedGroupKey := []
  facetVariables : Table String String := .empty
  facetOrder : String := ""
  facetDescending : Bool := false

/-- A node, with the nodes nested below. -/
structure ParsedQuery where
  clause : ParsedClause := {}
  children : List ParsedQuery := []

end Dql
