import Dql.Proofs.Difference.Parts

/-!
# Where two forests of queries differ

A query without a fallback is told by its content, up to the members that are `null` and
the signs of zeros in the scalars of its expressions (`Query.content_toJson_iff`). So if
nothing else can be said of two forests than that they differ, such members are all they
differ in. The main statement, `Query.describes_first_difference`, puts this beside what is
reported of two values.
-/

namespace Dql

open Json (content_record_iff content_text_iff content_flag_iff content_texts_iff
  content_list_eq_iff content_option_eq_iff present present_append textMember_eq_present
  flagMember_eq_present listMember_eq_present optionMember_eq_present textsMember_eq_present
  textOrNull flagOrNull listOrNull orNull tableOrNull)

/-! ## Queries as written -/

/-- The fields of a query without a fallback, given its children as written. -/
def Clause.fields (c : Clause) (children : List Json) : List (String × Json) :=
  [("ids", listOrNull (c.ids.map Json.ofUid)), ("attr", textOrNull c.attr),
    ("langs", listOrNull (c.langs.map .string)), ("alias", textOrNull c.aliasName),
    ("default", .null), ("isCount", flagOrNull c.isCount),
    ("isInternal", flagOrNull c.isInternal), ("isGroupby", flagOrNull c.isGroupBy),
    ("varName", textOrNull c.variableName),
    ("neededVars", listOrNull (c.uses.map VariableUse.toJson)),
    ("func", orNull Call.toJson c.call), ("expand", textOrNull c.expand),
    ("args", tableOrNull id .string c.arguments),
    ("order", listOrNull (c.orders.map Order.toJson)), ("children", listOrNull children),
    ("filter", orNull Filter.toJson c.filter),
    ("mathExp", orNull MathExpr.toJson c.math), ("normalize", flagOrNull c.normalize),
    ("recurse", flagOrNull c.recurse), ("cascade", flagOrNull c.cascade),
    ("ignoreReflex", flagOrNull c.ignoreReflex),
    ("facets", orNull FacetRequest.toJson c.facets),
    ("facetsFilter", orNull Filter.toJson c.facetFilter),
    ("facetVar", tableOrNull id .string c.facetVariables),
    ("facetOrder", textOrNull c.facetOrder), ("facetDesc", flagOrNull c.facetDescending),
    ("groupbyAttrs", listOrNull (c.groupKeys.map GroupKey.toJson))]

theorem Clause.members_eq (c : Clause) (children : List Json) :
    c.members none children = present (c.fields children) := by
  have hcall : ∀ d : Call, d.toJson.isNull = false := fun _ => rfl
  have hfacets : ∀ r : FacetRequest, r.toJson.isNull = false := fun _ => rfl
  have hdefault : Json.optionMember "default" (none : Option Json) id =
    present [("default", .null)] := rfl
  -- the equation of `members` is costly to derive, its unfolding is not
  delta members
  simp only [listMember_eq_present, textMember_eq_present, flagMember_eq_present,
    textsMember_eq_present, hdefault, optionMember_eq_present _ _ hcall,
    optionMember_eq_present _ _ hfacets, optionMember_eq_present _ _ Filter.isNull_toJson,
    optionMember_eq_present _ _ MathExpr.isNull_toJson, ← present_append, List.cons_append,
    List.nil_append]
  delta fields
  rfl

/-- The clause, the values in its expression without the members that are `null`. -/
def Clause.withoutNulls (c : Clause) : Clause :=
  { c with math := c.math.map MathExpr.withoutNulls }

theorem Clause.content_members_iff {c d : Clause} {cs ds : List Json}
    (hc : ∀ e, c.math = some e → e.Legible) (hd : ∀ e, d.math = some e → e.Legible) :
    (Json.object (c.members none cs)).content = (Json.object (d.members none ds)).content ↔
      c.withoutNulls.unsignZeros = d.withoutNulls.unsignZeros ∧
        cs.map Json.content = ds.map Json.content := by
  have hnodup : ((c.fields cs).map Prod.fst).Nodup := by simp [fields]
  have hmath : ∀ c : Clause,
      (c.math.map MathExpr.withoutNulls).map MathExpr.unsignZeros = c.math.map MathExpr.essence :=
    fun c => Option.map_map _ _ c.math
  rw [members_eq, members_eq, content_record_iff (c.fields cs) (d.fields ds) rfl hnodup]
  unfold withoutNulls unsignZeros
  rw [Clause.mk.injEq, hmath, hmath]
  simp only [fields, List.map_cons, List.map_nil, List.cons.injEq, and_true, true_and,
    content_text_iff, content_flag_iff, content_texts_iff,
    content_list_eq_iff fun _ _ => Json.content_ofUid_iff,
    content_list_eq_iff fun _ _ => Json.content_string_iff,
    content_list_eq_iff VariableUse.content_toJson_iff,
    content_list_eq_iff Order.content_toJson_iff, content_list_eq_iff GroupKey.content_toJson_iff,
    content_option_eq_iff (fun _ => rfl) Call.content_toJson_iff,
    content_option_eq_iff (fun _ => rfl) FacetRequest.content_toJson_iff,
    content_option_eq_iff Filter.isNull_toJson Filter.content_toJson_iff,
    MathExpr.content_option_iff hc hd, Json.content_list_iff]
  -- the children stand among the members, but behind them here
  rw [← eq_iff_iff]
  ac_rfl

mutual

/-- The query, the values in its expressions without the members that are `null`. -/
def Query.withoutNulls : Query → Query
  | ⟨clause, fallback, children⟩ =>
    ⟨clause.withoutNulls, fallback, Query.allWithoutNulls children⟩

/-- The queries, the values in their expressions without the members that are `null`. -/
def Query.allWithoutNulls : List Query → List Query
  | [] => []
  | q :: rest => q.withoutNulls :: Query.allWithoutNulls rest

end

namespace Query

/-- What counts of a query. -/
def essence (q : Query) : Query := q.withoutNulls.unsignZeros

theorem allWithoutNulls_eq_map (qs : List Query) : allWithoutNulls qs = qs.map withoutNulls := by
  induction qs with
  | nil => rfl
  | cons q rest ih => rw [allWithoutNulls, ih, List.map_cons]

theorem unsignAllZeros_eq_map (qs : List Query) : unsignAllZeros qs = qs.map unsignZeros := by
  induction qs with
  | nil => rfl
  | cons q rest ih => rw [unsignAllZeros, ih, List.map_cons]

theorem essence_mk (clause : Clause) (fallback : Option Json) (children : List Query) :
    essence ⟨clause, fallback, children⟩ =
      ⟨clause.withoutNulls.unsignZeros, fallback.map Json.unsignZeros, children.map essence⟩ := by
  rw [essence, withoutNulls, unsignZeros, allWithoutNulls_eq_map, unsignAllZeros_eq_map,
    List.map_map]
  rfl

/-- A query without a fallback at any depth, the values in its expressions with their members
in order, as they are once they have been read. -/
def Stripped (q : Query) : Prop := LegibleWith (· = none) q

/-- A legible query is one of these once its fallbacks are stripped. -/
theorem stripped_stripFallbacks {P : Option Json → Prop} {q : Query} (h : LegibleWith P q) :
    q.stripFallbacks.Stripped := by
  induction h with
  | @intro n _ hmath _ ih =>
    obtain ⟨clause, fallback, children⟩ := n
    rw [stripFallbacks, stripAll_eq_map]
    refine .intro rfl hmath fun c hc => ?_
    obtain ⟨child, hchild, rfl⟩ := List.mem_map.1 hc
    exact ih child hchild

theorem content_toJson_iff : ∀ {q r : Query}, q.Stripped → r.Stripped →
    (q.toJson.content = r.toJson.content ↔ q.essence = r.essence)
  | ⟨clause, fallback, children⟩, ⟨clause', fallback', children'⟩,
    .intro hfallback hmath hchildren, .intro hfallback' hmath' hchildren' => by
    obtain rfl : fallback = none := hfallback
    obtain rfl : fallback' = none := hfallback'
    have hiff : ∀ q ∈ children, ∀ r ∈ children',
        ((toJson q).content = (toJson r).content ↔ essence q = essence r) := fun q hq r hr =>
      content_toJson_iff (hchildren q hq) (hchildren' r hr)
    rw [toJson_eq, toJson_eq, Clause.content_members_iff hmath hmath', essence_mk, essence_mk,
      Query.mk.injEq, List.map_map, List.map_map]
    refine and_congr_right fun _ => (map_eq_map_iff_of_mem hiff).trans ?_
    exact (and_iff_right rfl).symm

theorem content_allToJson_iff {qs rs : List Query} (hqs : ∀ q ∈ qs, q.Stripped)
    (hrs : ∀ r ∈ rs, r.Stripped) :
    (Json.array (allToJson qs)).content = (Json.array (allToJson rs)).content ↔
      allSame (qs.map withoutNulls) (rs.map withoutNulls) = true := by
  have hiff : ∀ q ∈ qs, ∀ r ∈ rs,
      ((toJson q).content = (toJson r).content ↔ essence q = essence r) := fun q hq r hr =>
    content_toJson_iff (hqs q hq) (hrs r hr)
  rw [Json.content_array, Json.content_array, Json.array.injEq, allToJson_eq_map, allToJson_eq_map,
    List.map_map, List.map_map, allSame_iff, unsignAllZeros_eq_map, unsignAllZeros_eq_map,
    List.map_map, List.map_map]
  exact map_eq_map_iff_of_mem hiff

end Query

/-! ## What is reported -/

namespace Json

/-- The path of a difference starts with the path of the whole. -/
theorem pathText_eq_append (place : List Step) : ∀ path : String,
    ∃ rest, pathText path place = path ++ rest := by
  induction place with
  | nil => exact fun path => ⟨"", String.append_empty.symm⟩
  | cons s place ih =>
    intro path
    cases s with
    | key k =>
      obtain ⟨rest, hrest⟩ := ih (path ++ "." ++ k)
      refine ⟨"." ++ k ++ rest, hrest.trans ?_⟩
      simp only [String.append_assoc]
    | index i =>
      obtain ⟨rest, hrest⟩ := ih s!"{path}[{i}]"
      refine ⟨s!"[{i}]" ++ rest, hrest.trans ?_⟩
      simp only [toString, String.append_assoc]

theorem firstDifference_ne_treesDiffer {e p : Json} (he : e.Ordered) (hp : p.Ordered) :
    firstDifference "queries" e p ≠ some "trees differ" := by
  intro h
  obtain ⟨place, m, -, htext⟩ := (firstDifference_eq_some_iff _ he hp).1 h
  obtain ⟨rest, hrest⟩ := pathText_eq_append place "queries"
  rw [hrest, String.append_assoc] at htext
  have hfirst := congrArg (fun s => s.toList.head?) htext
  simp at hfirst

end Json

namespace Query

theorem describeDifference_eq_iff {qs rs : List Query} (hqs : ∀ q ∈ qs, q.Stripped)
    (hrs : ∀ r ∈ rs, r.Stripped) :
    describeDifference qs rs = "trees differ" ↔
      allSame (qs.map withoutNulls) (rs.map withoutNulls) = true := by
  have hordered : ∀ qs, (Json.array (allToJson qs)).sortKeys.Ordered := fun qs =>
    Json.ordered_sortKeys _
  have hnone := (Json.firstDifference_eq_none_iff "queries" (hordered qs) (hordered rs)).trans
    (Json.alike_iff_essence (hordered qs) (hordered rs))
  have hne := Json.firstDifference_ne_treesDiffer (hordered qs) (hordered rs)
  rw [← content_allToJson_iff hqs hrs]
  unfold describeDifference Json.content
  dsimp only
  rw [← hnone]
  cases hdiff : Json.firstDifference "queries" (Json.array (allToJson qs)).sortKeys
      (Json.array (allToJson rs)).sortKeys with
  | none => exact iff_of_true rfl rfl
  | some text =>
    rw [hdiff] at hne
    exact iff_of_false (fun htext => hne (congrArg some htext)) nofun

/-- **Reports of differences are exact.** Of two values nothing is reported exactly if they
are the same once the members that are `null` are taken out of all their objects; else it is
the first difference, by its path and what is found there. And of two forests of queries,
none with a fallback, the report says no more than that they differ exactly if they are the
same but for such members in the values of mathematical expressions. -/
theorem describes_first_difference (path : String) {e p : Json} (he : e.Ordered) (hp : p.Ordered)
    {qs rs : List Query} (hqs : ∀ q ∈ qs, q.Stripped) (hrs : ∀ r ∈ rs, r.Stripped) :
    (Json.firstDifference path e p = none ↔ e.withoutNulls.same p.withoutNulls = true) ∧
      (∀ text, Json.firstDifference path e p = some text ↔
        ∃ place m, Json.IsFirst (Json.DiffersAt e p) place m ∧
          text = Json.pathText path place ++ m.text) ∧
      (describeDifference qs rs = "trees differ" ↔
        allSame (qs.map withoutNulls) (rs.map withoutNulls) = true) := by
  refine ⟨?_, fun _ => Json.firstDifference_eq_some_iff path he hp,
    describeDifference_eq_iff hqs hrs⟩
  rw [Json.firstDifference_eq_none_iff path he hp]
  exact Json.alike_iff he hp

/-- Members that are `null` are passed over, in a value as in an expression. -/
theorem describes_first_difference_nested :
    let e : Json := .object [("a", .null), ("b", .array [.ofNat 1, .object [("c", .string "x")]])]
    let p : Json := .object [("b", .array [.ofNat 1, .object [("c", .string "y"), ("d", .null)]])]
    let query (constant : Json) : Query :=
      { clause := { math := some { constant := { typeId := 1, value := constant } } },
        fallback := some (.string "unknown") }
    (∃ place m, Json.IsFirst (Json.DiffersAt e p) place m ∧
        "answer.b[1].c: expected \"x\", parsed \"y\"" = Json.pathText "answer" place ++ m.text) ∧
      describeDifference [(query (.object [("k", .null)])).stripFallbacks]
        [(query (.object [])).stripFallbacks] = "trees differ" := by
  intro e p query
  have hlegible : ∀ ms, (Json.object ms).Ordered →
      LegibleWith (fun _ => True) (query (.object ms)) := by
    refine fun ms h => .intro trivial (fun e he => ?_) nofun
    obtain rfl := Option.some.inj he
    exact .intro h nofun nofun
  have hexact := @describes_first_difference "answer" e p rfl rfl _ _
    (List.forall_mem_singleton.2 (stripped_stripFallbacks (hlegible [("k", .null)] rfl)))
    (List.forall_mem_singleton.2 (stripped_stripFallbacks (hlegible [] rfl)))
  exact ⟨(hexact.2.1 _).1 (by decide +kernel), hexact.2.2.2 (by decide +kernel)⟩

end Query

end Dql
