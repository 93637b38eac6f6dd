import Dql.Json.Record
import Dql.Parsed.Basic

/-!
# Parsed trees in JSON

The parser of the query language reports its result in JSON of its own layout:
other names than in the public form, every field written, `null` for what is
missing. Lists and tables may be `null` too when they are empty.
-/

namespace Dql

open Reading (orNull)

/-! ## Reading -/

/-- Reads a list that may be `null` when it is empty. -/
def Reading.listOrNull {α : Type} (r : Reading α) : Reading (List α) := orNull (.list r) []

/-- Reads a table of texts that may be `null` when it is empty. -/
def Reading.textsOrNull : Reading (Table String String) := orNull .texts .empty

/-- The record of a variable use as the parser reports it. -/
def ParsedVariableUse.record : Record ParsedVariableUse where
  initial := {}
  fields := [
    .of ["Name"] .text fun v u => { u with name := v },
    .of ["Typ"] .int32 fun v u => { u with kind := v }]

/-- The record of an argument as the parser reports it. -/
def ParsedArgument.record : Record ParsedArgument where
  initial := {}
  fields := [
    .of ["Value"] .text fun v a => { a with value := v },
    .of ["IsValueVar"] .flag fun v a => { a with isValueVariable := v },
    .of ["IsGraphQLVar"] .flag fun v a => { a with isRequestVariable := v }]

/-- The record of a call as the parser reports it. -/
def ParsedCall.record : Record ParsedCall where
  initial := {}
  fields := [
    .of ["Attr"] .text fun v c => { c with attr := v },
    .of ["Lang"] .text fun v c => { c with lang := v },
    .of ["Name"] .text fun v c => { c with name := v },
    .of ["Args"] (.listOrNull ParsedArgument.record.read) fun v c => { c with arguments := v },
    .of ["UID"] (.listOrNull .uid) fun v c => { c with ids := v },
    .of ["NeedsVar"] (.listOrNull ParsedVariableUse.record.read) fun v c => { c with uses := v },
    .of ["IsCount"] .flag fun v c => { c with isCount := v },
    .of ["IsValueVar"] .flag fun v c => { c with isValueVariable := v }]

/-- The record of a filter as the parser reports it. -/
def ParsedFilter.record : Record ParsedFilter where
  initial := {}
  fields := [
    .of ["Op"] .text fun v f => { f with op := v },
    .nested ["Child"] true fun v f => { f with operands := v },
    .of ["Func"] (.optional ParsedCall.record.read) fun v f => { f with call := v }]

/-- The record of a scalar as the parser reports it. -/
def ParsedScalar.record : Record ParsedScalar where
  initial := {}
  fields := [
    .of ["Tid"] .int32 fun v s => { s with typeId := v },
    .of ["Value"] .value fun v s => { s with value := v }]

/-- The record of an expression as the parser reports it. -/
def ParsedMathExpr.record : Record ParsedMathExpr where
  initial := {}
  fields := [
    .of ["Fn"] .text fun v e => { e with fn := v },
    .of ["Var"] .text fun v e => { e with variableName := v },
    .of ["Const"] ParsedScalar.record.read fun v e => { e with constant := v },
    .of ["Val"] (orNull (.table Reading.uidKey ParsedScalar.record.read) .empty)
      fun v e => { e with values := v },
    .nested ["Child"] true fun v e => { e with operands := v }]

/-- The record of an ordering as the parser reports it. -/
def ParsedOrder.record : Record ParsedOrder where
  initial := {}
  fields := [
    .of ["attr"] .text fun v o => { o with attr := v },
    .of ["desc"] .flag fun v o => { o with descending := v },
    .of ["langs"] (.listOrNull .text) fun v o => { o with langs := v }]

/-- The record of a facet key as the parser reports it. -/
def ParsedFacetKey.record : Record ParsedFacetKey where
  initial := {}
  fields := [
    .of ["key"] .text fun v k => { k with key := v },
    .of ["alias"] .text fun v k => { k with aliasName := v }]

/-- The record of a facet request as the parser reports it. -/
def ParsedFacetRequest.record : Record ParsedFacetRequest where
  initial := {}
  fields := [
    .of ["all_keys"] .flag fun v r => { r with allKeys := v },
    .of ["param"] (.listOrNull ParsedFacetKey.record.read) fun v r => { r with keys := v }]

/-- The record of a grouping as the parser reports it. -/
def ParsedGroupKey.record : Record ParsedGroupKey where
  initial := {}
  fields := [
    .of ["Attr"] .text fun v g => { g with attr := v },
    .of ["Alias"] .text fun v g => { g with aliasName := v },
    .of ["Langs"] (.listOrNull .text) fun v g => { g with langs := v }]

/-- A field that belongs to the clause of a parsed node. -/
def Field.ofParsedClause {β : Type} (name : String) (r : Reading β)
    (set : β → ParsedClause → ParsedClause) : Field ParsedQuery :=
  .of [name] r fun v n => { n with clause := set v n.clause }

/-- The record of a query as the parser reports it. -/
def ParsedQuery.record : Record ParsedQuery where
  initial := {}
  fields := [
    .ofParsedClause "UID" (.listOrNull .uid) fun v c => { c with ids := v },
    .ofParsedClause "Attr" .text fun v c => { c with attr := v },
    .ofParsedClause "Langs" (.listOrNull .text) fun v c => { c with langs := v },
    .ofParsedClause "Alias" .text fun v c => { c with aliasName := v },
    .ofParsedClause "IsCount" .flag fun v c => { c with isCount := v },
    .ofParsedClause "IsInternal" .flag fun v c => { c with isInternal := v },
    .ofParsedClause "IsGroupby" .flag fun v c => { c with isGroupBy := v },
    .ofParsedClause "Var" .text fun v c => { c with variableName := v },
    .ofParsedClause "NeedsVar" (.listOrNull ParsedVariableUse.record.read)
      fun v c => { c with uses := v },
    .ofParsedClause "Func" (.optional ParsedCall.record.read) fun v c => { c with call := v },
    .ofParsedClause "Expand" .text fun v c => { c with expand := v },
    .ofParsedClause "Args" .textsOrNull fun v c => { c with arguments := v },
    .ofParsedClause "Order" (.listOrNull ParsedOrder.record.read) fun v c => { c with orders := v },
    .nested ["Children"] true fun v n => { n with children := v },
    .ofParsedClause "Filter" (.optional ParsedFilter.record.read) fun v c => { c with filter := v },
    .ofParsedClause "MathExp" (.optional ParsedMathExpr.record.read) fun v c =>
      { c with math := v },
    .ofParsedClause "Normalize" .flag fun v c => { c with normalize := v },
    .ofParsedClause "Recurse" .flag fun v c => { c with recurse := v },
    .ofParsedClause "Cascade" .flag fun v c => { c with cascade := v },
    .ofParsedClause "IgnoreReflex" .flag fun v c => { c with ignoreReflex := v },
    .ofParsedClause "Facets" (.optional ParsedFacetRequest.record.read)
      fun v c => { c with facets := v },
    .ofParsedClause "FacetsFilter" (.optional ParsedFilter.record.read)
      fun v c => { c with facetFilter := v },
    .ofParsedClause "GroupbyAttrs" (.listOrNull ParsedGroupKey.record.read)
      fun v c => { c with groupKeys := v },
    .ofParsedClause "FacetVar" .textsOrNull fun v c => { c with facetVariables := v },
    .ofParsedClause "FacetOrder" .text fun v c => { c with facetOrder := v },
    .ofParsedClause "FacetDesc" .flag fun v c => { c with facetDescending := v }]

/-! ## Writing -/

open Json (ofUid ofInt32 uidKey ofTexts)

/-- What may be missing, with `null` for none. -/
def Json.orNull {α : Type} (write : α → Json) : Option α → Json
  | some x => write x
  | none => .null

/-- A variable use as the parser reports it. -/
def ParsedVariableUse.toJson (u : ParsedVariableUse) : Json :=
  .object [("Name", .string u.name), ("Typ", ofInt32 u.kind)]

/-- An argument as the parser reports it. -/
def ParsedArgument.toJson (a : ParsedArgument) : Json :=
  .object [("Value", .string a.value), ("IsValueVar", .bool a.isValueVariable),
    ("IsGraphQLVar", .bool a.isRequestVariable)]

/-- A call as the parser reports it. -/
def ParsedCall.toJson (c : ParsedCall) : Json :=
  .object [
    ("Attr", .string c.attr),
    ("Lang", .string c.lang),
    ("Name", .string c.name),
    ("Args", .array (c.arguments.map ParsedArgument.toJson)),
    ("UID", .array (c.ids.map ofUid)),
    ("NeedsVar", .array (c.uses.map ParsedVariableUse.toJson)),
    ("IsCount", .bool c.isCount),
    ("IsValueVar", .bool c.isValueVariable)]

mutual

/-- A filter as the parser reports it. -/
def ParsedFilter.toJson : ParsedFilter → Json
  | ⟨op, operands, call⟩ =>
    .object [("Op", .string op), ("Child", .array (ParsedFilter.allToJson operands)),
      ("Func", Json.orNull ParsedCall.toJson call)]

/-- Filters as the parser reports them, one by one. -/
def ParsedFilter.allToJson : List ParsedFilter → List Json
  | [] => []
  | f :: rest => f.toJson :: ParsedFilter.allToJson rest

end

/-- A scalar as the parser reports it. -/
def ParsedScalar.toJson (s : ParsedScalar) : Json :=
  .object [("Tid", ofInt32 s.typeId), ("Value", s.value)]

mutual

/-- An expression as the parser reports it. -/
def ParsedMathExpr.toJson : ParsedMathExpr → Json
  | ⟨fn, variableName, constant, values, operands⟩ =>
    .object [("Fn", .string fn), ("Var", .string variableName), ("Const", constant.toJson),
      ("Val", .object (values.entries.map fun e => (uidKey e.1, e.2.toJson))),
      ("Child", .array (ParsedMathExpr.allToJson operands))]

/-- Expressions as the parser reports them, one by one. -/
def ParsedMathExpr.allToJson : List ParsedMathExpr → List Json
  | [] => []
  | e :: rest => e.toJson :: ParsedMathExpr.allToJson rest

end

/-- An ordering as the parser reports it. -/
def ParsedOrder.toJson (o : ParsedOrder) : Json :=
  .object [("attr", .string o.attr), ("desc", .bool o.descending),
    ("langs", .array (o.langs.map .string))]

/-- A facet key as the parser reports it. -/
def ParsedFacetKey.toJson (k : ParsedFacetKey) : Json :=
  .object [("key", .string k.key), ("alias", .string k.aliasName)]

/-- A facet request as the parser reports it. -/
def ParsedFacetRequest.toJson (r : ParsedFacetRequest) : Json :=
  .object [("all_keys", .bool r.allKeys), ("param", .array (r.keys.map ParsedFacetKey.toJson))]

/-- A grouping as the parser reports it. -/
def ParsedGroupKey.toJson (g : ParsedGroupKey) : Json :=
  .object [("Attr", .string g.attr), ("Alias", .string g.aliasName),
    ("Langs", .array (g.langs.map .string))]

/-- The members of a parsed query in JSON, given its children as written. -/
def ParsedClause.members (c : ParsedClause) (children : List Json) : List (String × Json) := [
  ("UID", .array (c.ids.map ofUid)),
  ("Attr", .string c.attr),
  ("Langs", .array (c.langs.map .string)),
  ("Alias", .string c.aliasName),
  ("IsCount", .bool c.isCount),
  ("IsInternal", .bool c.isInternal),
  ("IsGroupby", .bool c.isGroupBy),
  ("Var", .string c.variableName),
  ("NeedsVar", .array (c.uses.map ParsedVariableUse.toJson)),
  ("Func", Json.orNull ParsedCall.toJson c.call),
  ("Expand", .string c.expand),
  ("Args", ofTexts c.arguments),
  ("Order", .array (c.orders.map ParsedOrder.toJson)),
  ("Children", .array children),
  ("Filter", Json.orNull ParsedFilter.toJson c.filter),
  ("MathExp", Json.orNull ParsedMathExpr.toJson c.math),
  ("Normalize", .bool c.normalize),
  ("Recurse", .bool c.recurse),
  ("Cascade", .bool c.cascade),
  ("IgnoreReflex", .bool c.ignoreReflex),
  ("Facets", Json.orNull ParsedFacetRequest.toJson c.facets),
  ("FacetsFilter", Json.orNull ParsedFilter.toJson c.facetFilter),
  ("GroupbyAttrs", .array (c.groupKeys.map ParsedGroupKey.toJson)),
  ("FacetVar", ofTexts c.facetVariables),
  ("FacetOrder", .string c.facetOrder),
  ("FacetDesc", .bool c.facetDescending)]

mutual

/-- A query as the parser reports it. -/
def ParsedQuery.toJson : ParsedQuery → Json
  | ⟨clause, children⟩ => .object (clause.members (ParsedQuery.allToJson children))

/-- Queries as the parser reports them, one by one. -/
def ParsedQuery.allToJson : List ParsedQuery → List Json
  | [] => []
  | q :: rest => q.toJson :: ParsedQuery.allToJson rest

end

/-- The same parsed queries: what the parser says of them is the same, field by field. -/
def ParsedQuery.allSame (ps qs : List ParsedQuery) : Bool :=
  Json.sameItems (ParsedQuery.allToJson ps) (ParsedQuery.allToJson qs)

/-! ## Expressions by themselves -/

/-- The record of an expression as it is reported outside of a query. -/
abbrev MathExpr.parsedRecord : Record ParsedMathExpr := ParsedMathExpr.record

/-- An expression as it is reported outside of a query. -/
abbrev MathExpr.toParsedJson : ParsedMathExpr → Json := ParsedMathExpr.toJson

end Dql
