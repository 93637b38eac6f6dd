import Dql.Proofs.Difference.Content
import Dql.Proofs.Query.Codec

/-!
# The parts of a query are told by their content

For each record that a query is made of: its fields, with `null` for a field that is left
out (`fields`, `toJson_eq`), and what the content of the written record tells
(`content_toJson_iff`). Most records hold texts, flags, identifiers and other such records,
and their content tells all of them. A scalar carries a JSON value along, of which the
members that are `null` and the signs of zeros are lost; so a scalar is told by its content
up to these (`Scalar.essence`), and an expression up to those of the scalars in it
(`MathExpr.essence`).
-/

namespace Dql

open Json (content_record_iff content_text_iff content_flag_iff content_list_map_iff
  content_list_eq_iff content_option_eq_iff content_nullIf_iff content_table_iff present
  present_append present_singleton present_value textMember_eq_present flagMember_eq_present
  listMember_eq_present optionMember_eq_present nullIf textOrNull flagOrNull listOrNull
  orNull tableOrNull)

/-! ## Scalars without structure -/

theorem Json.content_string_iff {s t : String} :
    (Json.string s).content = (Json.string t).content ↔ s = t :=
  ⟨string.inj, congrArg fun s => (string s).content⟩

theorem Json.content_int_iff {m n : Int} :
    (number (.int m)).content = (number (.int n)).content ↔ m = n :=
  ⟨fun h => Number.int.inj (number.inj h), congrArg fun n => (number (.int n)).content⟩

theorem Json.content_ofUid_iff {u v : Uid} : (ofUid u).content = (ofUid v).content ↔ u = v := by
  unfold ofUid ofNat
  rw [content_int_iff, Int.natCast_inj, UInt64.toNat_inj]

theorem Json.content_ofInt32_iff {m n : Int32} :
    (ofInt32 m).content = (ofInt32 n).content ↔ m = n := by
  unfold ofInt32
  rw [content_int_iff, Int32.toInt_inj]

theorem VariableKind.content_code_iff {k l : VariableKind} :
    (Json.ofNat k.code).content = (Json.ofNat l.code).content ↔ k = l := by
  unfold Json.ofNat
  rw [Json.content_int_iff]
  cases k <;> cases l <;> decide

/-! ## Calls and filters -/

/-- The fields of a variable use. -/
def VariableUse.fields (u : VariableUse) : List (String × Json) :=
  [("name", .string u.name), ("kind", .ofNat u.kind.code)]

theorem VariableUse.content_toJson_iff (u v : VariableUse) :
    u.toJson.content = v.toJson.content ↔ u = v := by
  have hnodup : (u.fields.map Prod.fst).Nodup := by simp [fields]
  refine (content_record_iff u.fields v.fields rfl hnodup).trans ?_
  simp only [fields, List.map_cons, List.map_nil, List.cons.injEq, and_true,
    Json.content_string_iff, VariableKind.content_code_iff]
  cases u
  cases v
  rw [VariableUse.mk.injEq]

/-- The fields of an argument. -/
def Argument.fields (a : Argument) : List (String × Json) :=
  [("value", textOrNull a.value), ("isValueVar", flagOrNull a.isValueVariable),
    ("isGraphVar", flagOrNull a.isRequestVariable)]

theorem Argument.toJson_eq (a : Argument) : a.toJson = .object (present a.fields) := by
  unfold toJson
  rw [textMember_eq_present, flagMember_eq_present, flagMember_eq_present, ← present_append,
    ← present_append]
  rfl

theorem Argument.content_toJson_iff (a b : Argument) :
    a.toJson.content = b.toJson.content ↔ a = b := by
  have hnodup : (a.fields.map Prod.fst).Nodup := by simp [fields]
  rw [toJson_eq, toJson_eq, content_record_iff a.fields b.fields rfl hnodup]
  simp only [fields, List.map_cons, List.map_nil, List.cons.injEq, and_true, content_text_iff,
    content_flag_iff]
  cases a
  cases b
  rw [Argument.mk.injEq]

/-- The fields of a call. -/
def Call.fields (c : Call) : List (String × Json) :=
  [("attr", textOrNull c.attr), ("lang", textOrNull c.lang), ("name", textOrNull c.name),
    ("args", listOrNull (c.arguments.map Argument.toJson)),
    ("ids", listOrNull (c.ids.map Json.ofUid)),
    ("neededVars", listOrNull (c.uses.map VariableUse.toJson)),
    ("isCount", flagOrNull c.isCount), ("isValueVar", flagOrNull c.isValueVariable)]

theorem Call.toJson_eq (c : Call) : c.toJson = .object (present c.fields) := by
  unfold toJson
  simp only [textMember_eq_present, flagMember_eq_present, listMember_eq_present,
    ← present_append]
  rfl

theorem Call.content_toJson_iff (c d : Call) :
    c.toJson.content = d.toJson.content ↔ c = d := by
  have hnodup : (c.fields.map Prod.fst).Nodup := by simp [fields]
  rw [toJson_eq, toJson_eq, content_record_iff c.fields d.fields rfl hnodup]
  simp only [fields, List.map_cons, List.map_nil, List.cons.injEq, and_true, content_text_iff,
    content_flag_iff, content_list_eq_iff Argument.content_toJson_iff,
    content_list_eq_iff fun _ _ => Json.content_ofUid_iff,
    content_list_eq_iff VariableUse.content_toJson_iff]
  cases c
  cases d
  rw [Call.mk.injEq]

/-- The fields of a filter. -/
def Filter.fields (f : Filter) : List (String × Json) :=
  [("op", textOrNull f.op), ("children", listOrNull (f.operands.map toJson)),
    ("func", orNull Call.toJson f.call)]

theorem Filter.toJson_eq (f : Filter) : f.toJson = .object (present f.fields) := by
  obtain ⟨op, operands, call⟩ := f
  rw [toJson, allToJson_eq_map, textMember_eq_present, listMember_eq_present,
    optionMember_eq_present _ _ fun _ => rfl, ← present_append, ← present_append]
  rfl

theorem Filter.isNull_toJson (f : Filter) : f.toJson.isNull = false := by
  rw [toJson_eq]
  rfl

theorem Filter.content_toJson_iff (f g : Filter) :
    f.toJson.content = g.toJson.content ↔ f = g := by
  obtain ⟨op, operands, call⟩ := f
  obtain ⟨op', operands', call'⟩ := g
  have hnodup : ((fields ⟨op, operands, call⟩).map Prod.fst).Nodup := by simp [fields]
  have hoperands : ∀ f ∈ operands, ∀ g ∈ operands',
      (f.toJson.content = g.toJson.content ↔ id f = id g) := fun f _ g _ => content_toJson_iff f g
  rw [toJson_eq, toJson_eq,
    content_record_iff (fields ⟨op, operands, call⟩) (fields ⟨op', operands', call'⟩) rfl hnodup]
  simp only [fields, List.map_cons, List.map_nil, List.cons.injEq, and_true, content_text_iff,
    content_list_map_iff hoperands, List.map_id,
    content_option_eq_iff (fun _ => rfl) Call.content_toJson_iff]
  rw [Filter.mk.injEq]

/-! ## Orderings, facets and groupings -/

/-- The fields of an ordering. -/
def Order.fields (o : Order) : List (String × Json) :=
  [("attr", .string o.attr), ("desc", flagOrNull o.descending),
    ("langs", listOrNull (o.langs.map .string))]

theorem Order.toJson_eq (o : Order) : o.toJson = .object (present o.fields) := by
  have hattr : [("attr", Json.string o.attr)] = present [("attr", .string o.attr)] := rfl
  unfold toJson
  rw [hattr, flagMember_eq_present, listMember_eq_present, ← present_append, ← present_append]
  rfl

theorem Order.content_toJson_iff (o p : Order) : o.toJson.content = p.toJson.content ↔ o = p := by
  have hnodup : (o.fields.map Prod.fst).Nodup := by simp [fields]
  rw [toJson_eq, toJson_eq, content_record_iff o.fields p.fields rfl hnodup]
  simp only [fields, List.map_cons, List.map_nil, List.cons.injEq, and_true, content_flag_iff,
    Json.content_string_iff, content_list_eq_iff fun _ _ => Json.content_string_iff]
  cases o
  cases p
  rw [Order.mk.injEq]

/-- The fields of a facet key. -/
def FacetKey.fields (k : FacetKey) : List (String × Json) :=
  [("key", .string k.key), ("alias", textOrNull k.aliasName)]

theorem FacetKey.toJson_eq (k : FacetKey) : k.toJson = .object (present k.fields) := by
  have hkey : [("key", Json.string k.key)] = present [("key", .string k.key)] := rfl
  unfold toJson
  rw [hkey, textMember_eq_present, ← present_append]
  rfl

theorem FacetKey.content_toJson_iff (k l : FacetKey) :
    k.toJson.content = l.toJson.content ↔ k = l := by
  have hnodup : (k.fields.map Prod.fst).Nodup := by simp [fields]
  rw [toJson_eq, toJson_eq, content_record_iff k.fields l.fields rfl hnodup]
  simp only [fields, List.map_cons, List.map_nil, List.cons.injEq, and_true, content_text_iff,
    Json.content_string_iff]
  cases k
  cases l
  rw [FacetKey.mk.injEq]

/-- The fields of a facet request. -/
def FacetRequest.fields (r : FacetRequest) : List (String × Json) :=
  [("allKeys", flagOrNull r.allKeys), ("param", listOrNull (r.keys.map FacetKey.toJson))]

theorem FacetRequest.toJson_eq (r : FacetRequest) : r.toJson = .object (present r.fields) := by
  unfold toJson
  rw [flagMember_eq_present, listMember_eq_present, ← present_append]
  rfl

theorem FacetRequest.content_toJson_iff (r s : FacetRequest) :
    r.toJson.content = s.toJson.content ↔ r = s := by
  have hnodup : (r.fields.map Prod.fst).Nodup := by simp [fields]
  rw [toJson_eq, toJson_eq, content_record_iff r.fields s.fields rfl hnodup]
  simp only [fields, List.map_cons, List.map_nil, List.cons.injEq, and_true, content_flag_iff,
    content_list_eq_iff FacetKey.content_toJson_iff]
  cases r
  cases s
  rw [FacetRequest.mk.injEq]

/-- The fields of a grouping. -/
def GroupKey.fields (g : GroupKey) : List (String × Json) :=
  [("attr", .string g.attr), ("alias", textOrNull g.aliasName),
    ("langs", listOrNull (g.langs.map .string))]

theorem GroupKey.toJson_eq (g : GroupKey) : g.toJson = .object (present g.fields) := by
  have hattr : [("attr", Json.string g.attr)] = present [("attr", .string g.attr)] := rfl
  unfold toJson
  rw [hattr, textMember_eq_present, listMember_eq_present, ← present_append, ← present_append]
  rfl

theorem GroupKey.content_toJson_iff (g h : GroupKey) :
    g.toJson.content = h.toJson.content ↔ g = h := by
  have hnodup : (g.fields.map Prod.fst).Nodup := by simp [fields]
  rw [toJson_eq, toJson_eq, content_record_iff g.fields h.fields rfl hnodup]
  simp only [fields, List.map_cons, List.map_nil, List.cons.injEq, and_true, content_text_iff,
    Json.content_string_iff, content_list_eq_iff fun _ _ => Json.content_string_iff]
  cases g
  cases h
  rw [GroupKey.mk.injEq]

/-! ## Expressions -/

/-- The scalar, its value without the members that are `null`. -/
def Scalar.withoutNulls (s : Scalar) : Scalar := { s with value := s.value.withoutNulls }

mutual

/-- The expression, the values in it without the members that are `null`. -/
def MathExpr.withoutNulls : MathExpr → MathExpr
  | ⟨fn, variableName, constant, values, operands⟩ =>
    ⟨fn, variableName, constant.withoutNulls, values.map fun _ s => s.withoutNulls,
      MathExpr.allWithoutNulls operands⟩

/-- The expressions, the values in them without the members that are `null`. -/
def MathExpr.allWithoutNulls : List MathExpr → List MathExpr
  | [] => []
  | e :: rest => e.withoutNulls :: MathExpr.allWithoutNulls rest

end

namespace Scalar

/-- What counts of a scalar. -/
def essence (s : Scalar) : Scalar := s.withoutNulls.unsignZeros

/-- The fields of a scalar. -/
def fields (s : Scalar) : List (String × Json) :=
  [("tid", nullIf (s.typeId = 0) (.ofInt32 s.typeId)), ("value", s.value)]

theorem toJson_eq (s : Scalar) : s.toJson = .object (present s.fields) := by
  unfold toJson
  rw [present_singleton "tid" (s.typeId = 0) rfl, present_value, ← present_append]
  rfl

theorem content_toJson_iff {s t : Scalar} (hs : s.Legible) (ht : t.Legible) :
    s.toJson.content = t.toJson.content ↔ s.essence = t.essence := by
  have hkeys : ∀ s : Scalar, s.fields.map Prod.fst = ["tid", "value"] := fun _ => rfl
  have hnodup : (s.fields.map Prod.fst).Nodup := by simp [fields]
  have htype : (nullIf (s.typeId = 0) (.ofInt32 s.typeId)).content =
      (nullIf (t.typeId = 0) (.ofInt32 t.typeId)).content ↔ s.typeId = t.typeId :=
    content_nullIf_iff rfl rfl Json.content_ofInt32_iff (fun hs ht => hs.trans ht.symm)
      fun h => by rw [h]
  have hvalue : ∀ {s : Scalar}, s.Legible → s.value.content = s.value.essence := by
    intro s h
    unfold Json.content
    rw [h]
  rw [toJson_eq, toJson_eq,
    content_record_iff s.fields t.fields ((hkeys s).trans (hkeys t).symm) hnodup]
  simp only [fields, List.map_cons, List.map_nil, List.cons.injEq, and_true, htype, hvalue hs,
    hvalue ht]
  unfold essence withoutNulls unsignZeros
  rw [Scalar.mk.injEq]
  rfl

theorem isEmpty_essence (s : Scalar) : s.essence.isEmpty = s.isEmpty := by
  have hnull : s.value.essence.isNull = s.value.isNull := by
    rw [Bool.eq_iff_iff, ← Json.essence_eq_null_iff (j := s.value)]
    exact ⟨Json.eq_null_of_isNull, fun h => by rw [h]; rfl⟩
  show (s.typeId == 0 && s.value.essence.isNull) = _
  rw [hnull]
  rfl

end Scalar

theorem Json.uidKey_injective : Function.Injective uidKey := by
  intro u v h
  have hread := Reading.uidKey_uidKey u
  rw [h, Reading.uidKey_uidKey v] at hread
  exact (Option.some.inj hread).symm

theorem Json.content_scalars_iff {s t : Table Uid Scalar} (hs : ∀ e ∈ s.entries, e.2.Legible)
    (ht : ∀ e ∈ t.entries, e.2.Legible) :
    (tableOrNull uidKey Scalar.toJson s).content = (tableOrNull uidKey Scalar.toJson t).content ↔
      (s.map fun _ v => v.essence) = t.map fun _ v => v.essence := by
  rw [content_table_iff uidKey_injective fun _ => rfl, Table.map_eq_map_iff, Table.map_eq_map_iff]
  refine map_eq_map_iff_of_mem fun d hd e he => ?_
  rw [Prod.mk.injEq, Prod.mk.injEq, Scalar.content_toJson_iff (hs d hd) (ht e he)]

namespace MathExpr

/-- What counts of an expression. -/
def essence (e : MathExpr) : MathExpr := e.withoutNulls.unsignZeros

theorem allWithoutNulls_eq_map (es : List MathExpr) :
    allWithoutNulls es = es.map withoutNulls := by
  induction es with
  | nil => rfl
  | cons e rest ih => rw [allWithoutNulls, ih, List.map_cons]

theorem allUnsignZeros_eq_map (es : List MathExpr) :
    allUnsignZeros es = es.map unsignZeros := by
  induction es with
  | nil => rfl
  | cons e rest ih => rw [allUnsignZeros, ih, List.map_cons]

theorem essence_mk (fn variableName : String) (constant : Scalar) (values : Table Uid Scalar)
    (operands : List MathExpr) :
    essence ⟨fn, variableName, constant, values, operands⟩ =
      ⟨fn, variableName, constant.essence, values.map fun _ s => s.essence,
        operands.map essence⟩ := by
  rw [essence, withoutNulls, unsignZeros, allWithoutNulls_eq_map, allUnsignZeros_eq_map,
    List.map_map, Table.map_map]
  rfl

/-- The fields of an expression. -/
def fields (e : MathExpr) : List (String × Json) :=
  [("fn", textOrNull e.fn), ("var", textOrNull e.variableName),
    ("const", nullIf e.constant.isEmpty e.constant.toJson),
    ("val", tableOrNull Json.uidKey Scalar.toJson e.values),
    ("children", listOrNull (e.operands.map toJson))]

theorem toJson_eq (e : MathExpr) : e.toJson = .object (present e.fields) := by
  obtain ⟨fn, variableName, constant, values, operands⟩ := e
  rw [toJson, allToJson_eq_map, textMember_eq_present, textMember_eq_present,
    listMember_eq_present, present_singleton "const" (constant.isEmpty = true) rfl,
    present_singleton "val" (values.isEmpty = true) rfl]
  simp only [← present_append]
  rfl

theorem isNull_toJson (e : MathExpr) : e.toJson.isNull = false := by
  rw [toJson_eq]
  rfl

theorem content_constant_iff {s t : Scalar} (hs : s.Legible) (ht : t.Legible) :
    (nullIf s.isEmpty s.toJson).content = (nullIf t.isEmpty t.toJson).content ↔
      s.essence = t.essence := by
  refine content_nullIf_iff rfl rfl (Scalar.content_toJson_iff hs ht) (fun hs ht => ?_) fun h => ?_
  · rw [Scalar.eq_of_isEmpty hs, Scalar.eq_of_isEmpty ht]
  · rw [← Scalar.isEmpty_essence, h, Scalar.isEmpty_essence]

theorem content_toJson_iff : ∀ {e f : MathExpr}, e.Legible → f.Legible →
    (e.toJson.content = f.toJson.content ↔ e.essence = f.essence)
  | ⟨fn, variableName, constant, values, operands⟩,
    ⟨fn', variableName', constant', values', operands'⟩,
    .intro hconstant hvalues hoperands, .intro hconstant' hvalues' hoperands' => by
    have hnodup : ((fields ⟨fn, variableName, constant, values, operands⟩).map Prod.fst).Nodup := by
      simp [fields]
    have hiff : ∀ e ∈ operands, ∀ f ∈ operands',
        (e.toJson.content = f.toJson.content ↔ e.essence = f.essence) := fun e he f hf =>
      content_toJson_iff (hoperands e he) (hoperands' f hf)
    rw [toJson_eq, toJson_eq,
      content_record_iff (fields ⟨fn, variableName, constant, values, operands⟩)
        (fields ⟨fn', variableName', constant', values', operands'⟩) rfl hnodup,
      essence_mk, essence_mk]
    simp only [fields, List.map_cons, List.map_nil, List.cons.injEq, and_true, content_text_iff,
      content_constant_iff hconstant hconstant', Json.content_scalars_iff hvalues hvalues',
      content_list_map_iff hiff]
    rw [MathExpr.mk.injEq]

theorem content_option_iff {o p : Option MathExpr} (ho : ∀ e, o = some e → e.Legible)
    (hp : ∀ e, p = some e → e.Legible) :
    (orNull toJson o).content = (orNull toJson p).content ↔
      o.map essence = p.map essence := by
  rw [Json.content_option_iff isNull_toJson]
  cases o with
  | none => cases p <;> simp
  | some e =>
    cases p with
    | none => simp
    | some f =>
      rw [Option.map_some, Option.map_some, Option.map_some, Option.map_some, Option.some_inj,
        Option.some_inj, content_toJson_iff (ho e rfl) (hp f rfl)]

end MathExpr

end Dql
