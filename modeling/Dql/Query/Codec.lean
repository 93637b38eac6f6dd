import Dql.Json.Record

/-!
# Query trees in JSON

The public form of a query tree. Each record lists its fields in the order in
which they are written; fields that are empty are left out, except those without
which the record would say nothing (the queries of a block, the name and kind of
a variable, the attribute of an ordering or grouping, the key of a facet). Some
fields have a second, older name under which they are read too.
-/

namespace Dql

/-! ## Reading -/

namespace VariableUse

/-- The record of a variable use. -/
def record : Record VariableUse where
  initial := ⟨"", .nodes⟩
  fields := [
    .of ["name"] .text fun v u => { u with name := v },
    .of ["kind", "typ"] .kind fun v u => { u with kind := v }]

end VariableUse

namespace Argument

/-- The record of an argument. -/
def record : Record Argument where
  initial := {}
  fields := [
    .of ["value"] .text fun v a => { a with value := v },
    .of ["isValueVar"] .flag fun v a => { a with isValueVariable := v },
    .of ["isGraphVar", "isGraphQLVar"] .flag fun v a => { a with isRequestVariable := v }]

end Argument

namespace Call

/-- The record of a call. -/
def record : Record Call where
  initial := {}
  fields := [
    .of ["attr"] .text fun v c => { c with attr := v },
    .of ["lang"] .text fun v c => { c with lang := v },
    .of ["name"] .text fun v c => { c with name := v },
    .of ["args"] (.list Argument.record.read) fun v c => { c with arguments := v },
    .of ["ids", "uid"] (.list .uid) fun v c => { c with ids := v },
    .of ["neededVars", "needsVar"] (.list VariableUse.record.read) fun v c => { c with uses := v },
    .of ["isCount"] .flag fun v c => { c with isCount := v },
    .of ["isValueVar"] .flag fun v c => { c with isValueVariable := v }]

end Call

namespace Filter

/-- The record of a filter. -/
def record : Record Filter where
  initial := {}
  fields := [
    .of ["op"] .text fun v f => { f with op := v },
    .nested ["children", "child"] false fun v f => { f with operands := v },
    .of ["func"] (.optional Call.record.read) fun v f => { f with call := v }]

end Filter

namespace Scalar

/-- The record of a scalar. -/
def record : Record Scalar where
  initial := {}
  fields := [
    .of ["tid"] .int32 fun v s => { s with typeId := v },
    .of ["value"] .value fun v s => { s with value := v }]

end Scalar

namespace MathExpr

/-- The record of an expression. -/
def record : Record MathExpr where
  initial := {}
  fields := [
    .of ["fn"] .text fun v e => { e with fn := v },
    .of ["var"] .text fun v e => { e with variableName := v },
    .of ["const"] Scalar.record.read fun v e => { e with constant := v },
    .of ["val"] (.table Reading.uidKey Scalar.record.read) fun v e => { e with values := v },
    .nested ["children", "child"] false fun v e => { e with operands := v }]

end MathExpr

namespace Order

/-- The record of an ordering. -/
def record : Record Order where
  initial := {}
  fields := [
    .of ["attr"] .text fun v o => { o with attr := v },
    .of ["desc"] .flag fun v o => { o with descending := v },
    .of ["langs"] (.list .text) fun v o => { o with langs := v }]

end Order

namespace FacetKey

/-- The record of a facet key. -/
def record : Record FacetKey where
  initial := {}
  fields := [
    .of ["key"] .text fun v k => { k with key := v },
    .of ["alias"] .text fun v k => { k with aliasName := v }]

end FacetKey

namespace FacetRequest

/-- The record of a facet request. -/
def record : Record FacetRequest where
  initial := {}
  fields := [
    .of ["allKeys"] .flag fun v r => { r with allKeys := v },
    .of ["param"] (.list FacetKey.record.read) fun v r => { r with keys := v }]

end FacetRequest

namespace GroupKey

/-- The record of a grouping. -/
def record : Record GroupKey where
  initial := {}
  fields := [
    .of ["attr"] .text fun v g => { g with attr := v },
    .of ["alias"] .text fun v g => { g with aliasName := v },
    .of ["langs"] (.list .text) fun v g => { g with langs := v }]

end GroupKey

/-- A field that belongs to a node's clause. -/
def Field.ofClause {β : Type} (names : List String) (r : Reading β)
    (set : β → Clause → Clause) : Field Query :=
  .of names r fun v n => { n with clause := set v n.clause }

namespace Query

/-- The record of a query. -/
def record : Record Query where
  initial := {}
  fields := [
    .ofClause ["ids", "uid"] (.list .uid) fun v c => { c with ids := v },
    .ofClause ["attr"] .text fun v c => { c with attr := v },
    .ofClause ["langs"] (.list .text) fun v c => { c with langs := v },
    .ofClause ["alias"] .text fun v c => { c with aliasName := v },
    .of ["default"] (.optional .value) fun v q => { q with fallback := v },
    .ofClause ["isCount"] .flag fun v c => { c with isCount := v },
    .ofClause ["isInternal"] .flag fun v c => { c with isInternal := v },
    .ofClause ["isGroupby"] .flag fun v c => { c with isGroupBy := v },
    .ofClause ["varName", "var"] .text fun v c => { c with variableName := v },
    .ofClause ["neededVars", "needsVar"] (.list VariableUse.record.read)
      fun v c => { c with uses := v },
    .ofClause ["func"] (.optional Call.record.read) fun v c => { c with call := v },
    .ofClause ["expand"] .text fun v c => { c with expand := v },
    .ofClause ["args"] .texts fun v c => { c with arguments := v },
    .ofClause ["order"] (.list Order.record.read) fun v c => { c with orders := v },
    .nested ["children"] false fun v q => { q with children := v },
    .ofClause ["filter"] (.optional Filter.record.read) fun v c => { c with filter := v },
    .ofClause ["mathExp"] (.optional MathExpr.record.read) fun v c => { c with math := v },
    .ofClause ["normalize"] .flag fun v c => { c with normalize := v },
    .ofClause ["recurse"] .flag fun v c => { c with recurse := v },
    .ofClause ["cascade"] .flag fun v c => { c with cascade := v },
    .ofClause ["ignoreReflex"] .flag fun v c => { c with ignoreReflex := v },
    .ofClause ["facets"] (.optional FacetRequest.record.read) fun v c => { c with facets := v },
    .ofClause ["facetsFilter"] (.optional Filter.record.read) fun v c =>
      { c with facetFilter := v },
    .ofClause ["facetVar"] .texts fun v c => { c with facetVariables := v },
    .ofClause ["facetOrder"] .text fun v c => { c with facetOrder := v },
    .ofClause ["facetDesc"] .flag fun v c => { c with facetDescending := v },
    .ofClause ["groupbyAttrs"] (.list GroupKey.record.read) fun v c => { c with groupKeys := v }]

end Query

namespace Block

/-- The record of a block. -/
def record : Record Block where
  initial := {}
  fields := [
    .of ["queries"] (.list Query.record.read) fun v b => { b with queries := v },
    .of ["alias"] .text fun v b => { b with aliasName := v },
    .of ["variables"] .texts fun v b => { b with variableTypes := v }]

end Block

/-! ## Writing -/

open Json (textMember flagMember optionMember listMember textsMember ofNat ofUid ofInt32 uidKey)

/-- A variable use in JSON; name and kind are always written. -/
def VariableUse.toJson (u : VariableUse) : Json :=
  .object [("name", .string u.name), ("kind", ofNat u.kind.code)]

/-- An argument in JSON. -/
def Argument.toJson (a : Argument) : Json :=
  .object (textMember "value" a.value ++ flagMember "isValueVar" a.isValueVariable ++
    flagMember "isGraphVar" a.isRequestVariable)

/-- A call in JSON. -/
def Call.toJson (c : Call) : Json :=
  .object (textMember "attr" c.attr ++ textMember "lang" c.lang ++ textMember "name" c.name ++
    listMember "args" (c.arguments.map Argument.toJson) ++
    listMember "ids" (c.ids.map ofUid) ++
    listMember "neededVars" (c.uses.map VariableUse.toJson) ++
    flagMember "isCount" c.isCount ++ flagMember "isValueVar" c.isValueVariable)

mutual

/-- A filter in JSON. -/
def Filter.toJson : Filter → Json
  | ⟨op, operands, call⟩ =>
    .object (textMember "op" op ++ listMember "children" (Filter.allToJson operands) ++
      optionMember "func" call Call.toJson)

/-- Filters in JSON, one by one. -/
def Filter.allToJson : List Filter → List Json
  | [] => []
  | f :: rest => f.toJson :: Filter.allToJson rest

end

/-- A scalar in JSON. -/
def Scalar.toJson (s : Scalar) : Json :=
  .object ((if s.typeId = 0 then [] else [("tid", ofInt32 s.typeId)]) ++
    (if s.value.isNull then [] else [("value", s.value)]))

mutual

/-- An expression in JSON. -/
def MathExpr.toJson : MathExpr → Json
  | ⟨fn, variableName, constant, values, operands⟩ =>
    .object (textMember "fn" fn ++ textMember "var" variableName ++
      (if constant.isEmpty then [] else [("const", constant.toJson)]) ++
      (if values.isEmpty then []
        else [("val", .object (values.entries.map fun e => (uidKey e.1, e.2.toJson)))]) ++
      listMember "children" (MathExpr.allToJson operands))

/-- Expressions in JSON, one by one. -/
def MathExpr.allToJson : List MathExpr → List Json
  | [] => []
  | e :: rest => e.toJson :: MathExpr.allToJson rest

end

/-- An ordering in JSON; the attribute is always written. -/
def Order.toJson (o : Order) : Json :=
  .object ([("attr", .string o.attr)] ++ flagMember "desc" o.descending ++
    listMember "langs" (o.langs.map .string))

/-- A facet key in JSON; the key is always written. -/
def FacetKey.toJson (k : FacetKey) : Json :=
  .object ([("key", .string k.key)] ++ textMember "alias" k.aliasName)

/-- A facet request in JSON. -/
def FacetRequest.toJson (r : FacetRequest) : Json :=
  .object (flagMember "allKeys" r.allKeys ++ listMember "param" (r.keys.map FacetKey.toJson))

/-- A grouping in JSON; the attribute is always written. -/
def GroupKey.toJson (g : GroupKey) : Json :=
  .object ([("attr", .string g.attr)] ++ textMember "alias" g.aliasName ++
    listMember "langs" (g.langs.map .string))

/-- The members of a query in JSON, given its fallback and its children as written. -/
def Clause.members (c : Clause) (fallback : Option Json) (children : List Json) :
    List (String × Json) :=
  listMember "ids" (c.ids.map ofUid) ++
  textMember "attr" c.attr ++
  listMember "langs" (c.langs.map .string) ++
  textMember "alias" c.aliasName ++
  optionMember "default" fallback id ++
  flagMember "isCount" c.isCount ++
  flagMember "isInternal" c.isInternal ++
  flagMember "isGroupby" c.isGroupBy ++
  textMember "varName" c.variableName ++
  listMember "neededVars" (c.uses.map VariableUse.toJson) ++
  optionMember "func" c.call Call.toJson ++
  textMember "expand" c.expand ++
  textsMember "args" c.arguments ++
  listMember "order" (c.orders.map Order.toJson) ++
  listMember "children" children ++
  optionMember "filter" c.filter Filter.toJson ++
  optionMember "mathExp" c.math MathExpr.toJson ++
  flagMember "normalize" c.normalize ++
  flagMember "recurse" c.recurse ++
  flagMember "cascade" c.cascade ++
  flagMember "ignoreReflex" c.ignoreReflex ++
  optionMember "facets" c.facets FacetRequest.toJson ++
  optionMember "facetsFilter" c.facetFilter Filter.toJson ++
  textsMember "facetVar" c.facetVariables ++
  textMember "facetOrder" c.facetOrder ++
  flagMember "facetDesc" c.facetDescending ++
  listMember "groupbyAttrs" (c.groupKeys.map GroupKey.toJson)

mutual

/-- A query in JSON. -/
def Query.toJson : Query → Json
  | ⟨clause, fallback, children⟩ => .object (clause.members fallback (Query.allToJson children))

/-- Queries in JSON, one by one. -/
def Query.allToJson : List Query → List Json
  | [] => []
  | q :: rest => q.toJson :: Query.allToJson rest

end

/-- A block in JSON; the queries are always written. -/
def Block.toJson (b : Block) : Json :=
  .object ([("queries", .array (Query.allToJson b.queries))] ++ textMember "alias" b.aliasName ++
    textsMember "variables" b.variableTypes)

/-- Writing a list of queries writes its members. -/
theorem Query.allToJson_eq_map (qs : List Query) : Query.allToJson qs = qs.map Query.toJson := by
  induction qs with
  | nil => rfl
  | cons q rest ih => rw [Query.allToJson, ih]; rfl

end Dql
