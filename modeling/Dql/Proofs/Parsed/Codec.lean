import Dql.Parsed.Codec
import Dql.Proofs.Json.Reading

/-!
# Parsed trees are read back

The form in which the parser reports a tree has every field written and takes `null` for
an empty list or table. What is read from it, with members missing or `null`, is read
again from what it is written as: here nothing is left out, so only the values that are
carried along in expressions have to be legible.
-/

namespace Dql

namespace Reading

variable {α : Type} {r : Reading α}

theorem listOrNull_array {write : α → Json} {xs : List α}
    (h : ∀ x ∈ xs, r (write x).document = .ok x) :
    listOrNull r (Json.array (xs.map write)).document = .ok xs := list_array h

theorem textsOrNull_ofTexts (t : Table String String) :
    textsOrNull (Json.ofTexts t).document = .ok t := texts_ofTexts t

/-- What may be missing is read from `null` as missing. -/
theorem optional_orNull {rec : Record α} {write : α → Json} {v : Option α}
    (h : ∀ x, v = some x → rec.read (write x).document = .ok x) :
    optional rec.read (Json.orNull write v).document = .ok v := by
  cases v with
  | none => rfl
  | some x => exact optional_read (h x rfl)

end Reading

open Reading (text_string flag_bool listOrNull_array textsOrNull_ofTexts optional_orNull)

/-! ## Calls and filters -/

theorem ParsedVariableUse.read_toJson (u : ParsedVariableUse) :
    ParsedVariableUse.record.read u.toJson.document = .ok u :=
  Record.read_of_writesAll (by decide)
    (.cons (.always (text_string u.name)) (.last (.always (Reading.int32_ofInt32 u.kind))))

theorem ParsedArgument.read_toJson (a : ParsedArgument) :
    ParsedArgument.record.read a.toJson.document = .ok a :=
  Record.read_of_writesAll (by decide)
    (.cons (.always (text_string a.value)) (.cons (.always (flag_bool a.isValueVariable))
    (.last (.always (flag_bool a.isRequestVariable)))))

theorem ParsedCall.read_toJson (c : ParsedCall) :
    ParsedCall.record.read c.toJson.document = .ok c :=
  Record.read_of_writesAll (by decide)
    (.cons (.always (text_string c.attr)) (.cons (.always (text_string c.lang))
    (.cons (.always (text_string c.name))
    (.cons (.always (listOrNull_array fun a _ => a.read_toJson))
    (.cons (.always (listOrNull_array fun u _ => Reading.uid_ofUid u))
    (.cons (.always (listOrNull_array fun u _ => u.read_toJson))
    (.cons (.always (flag_bool c.isCount)) (.last (.always (flag_bool c.isValueVariable))))))))))

theorem ParsedFilter.allToJson_eq_map (fs : List ParsedFilter) :
    ParsedFilter.allToJson fs = fs.map ParsedFilter.toJson := by
  induction fs with
  | nil => rfl
  | cons f rest ih => rw [ParsedFilter.allToJson, ih, List.map_cons]

theorem ParsedFilter.read_toJson (f : ParsedFilter) :
    ParsedFilter.record.read f.toJson.document = .ok f := by
  obtain ⟨op, operands, call⟩ := f
  rw [toJson, allToJson_eq_map]
  exact Record.read_of_writesAll (by decide)
    (.cons (.always (text_string op)) (.cons (.nestedAlways fun f _ => f.read_toJson)
    (.last (.always (optional_orNull fun c _ => c.read_toJson)))))

/-! ## Expressions -/

/-- A scalar whose value has its members in order. -/
def ParsedScalar.Legible (s : ParsedScalar) : Prop := s.value.Ordered

namespace ParsedScalar

theorem keeps_legible : record.Keeps Legible where
  initial := rfl
  fields := by
    simp only [record, List.forall_mem_cons]
    exact ⟨Field.keeps_of fun _ _ h => h,
      Field.keeps_of_reading (fun _ _ => Reading.ordered_of_value) fun _ _ h _ => h,
      fun f hf => absurd hf List.not_mem_nil⟩

theorem read_toJson {s : ParsedScalar} (h : s.Legible) :
    record.read s.toJson.document = .ok s :=
  Record.read_of_writesAll (by decide)
    (.cons (.always (Reading.int32_ofInt32 s.typeId)) (.last (.always (Reading.value_document h))))

end ParsedScalar

/-- An expression in which every scalar is legible. -/
inductive ParsedMathExpr.Legible : ParsedMathExpr → Prop where
  | intro {e : ParsedMathExpr} (hconstant : e.constant.Legible)
      (hvalues : ∀ v ∈ e.values.entries, v.2.Legible)
      (hoperands : ∀ o ∈ e.operands, Legible o) : Legible e

namespace ParsedMathExpr

theorem keeps_legible : record.Keeps Legible where
  initial := .intro rfl (fun _ h => absurd h List.not_mem_nil) fun _ h => absurd h List.not_mem_nil
  fields := by
    have hscalar := ParsedScalar.keeps_legible.forall_read
    have htable : ∀ d t, Reading.orNull (.table Reading.uidKey ParsedScalar.record.read) .empty d
        = .ok t → ∀ v ∈ t.entries, v.2.Legible := fun _ _ =>
      Reading.of_orNull (fun _ _ => Reading.of_table hscalar) fun _ h => absurd h List.not_mem_nil
    simp only [record, List.forall_mem_cons]
    refine ⟨Field.keeps_of fun _ _ h => ?_, Field.keeps_of fun _ _ h => ?_,
      Field.keeps_of_reading hscalar fun s _ hs h => ?_,
      Field.keeps_of_reading htable fun t _ ht h => ?_,
      fun es _ hes h => ?_, fun f hf => absurd hf List.not_mem_nil⟩
    all_goals obtain ⟨hconstant, hvalues, hoperands⟩ := h
    · exact ⟨hconstant, hvalues, hoperands⟩
    · exact ⟨hconstant, hvalues, hoperands⟩
    · exact ⟨hs, hvalues, hoperands⟩
    · exact ⟨hconstant, ht, hoperands⟩
    · exact ⟨hconstant, hvalues, hes⟩

theorem allToJson_eq_map (es : List ParsedMathExpr) : allToJson es = es.map toJson := by
  induction es with
  | nil => rfl
  | cons e rest ih => rw [allToJson, ih, List.map_cons]

theorem read_toJson : ∀ {e : ParsedMathExpr}, e.Legible → record.read e.toJson.document = .ok e
  | ⟨fn, variableName, constant, values, operands⟩, .intro hconstant hvalues hoperands => by
    rw [toJson, allToJson_eq_map]
    have htable : Reading.orNull (.table Reading.uidKey ParsedScalar.record.read) .empty
        (Json.object (values.entries.map fun v => (Json.uidKey v.1, v.2.toJson))).document
          = .ok values :=
      Reading.table_object Json.uidKey ParsedScalar.toJson Reading.uidKey_uidKey fun v hv =>
        ParsedScalar.read_toJson (hvalues v hv)
    exact Record.read_of_writesAll (by decide)
      (.cons (.always (text_string fn)) (.cons (.always (text_string variableName))
      (.cons (.always (ParsedScalar.read_toJson hconstant)) (.cons (.always htable)
      (.last (.nestedAlways fun e he => read_toJson (hoperands e he)))))))

end ParsedMathExpr

/-! ## Parts of a clause -/

theorem ParsedOrder.read_toJson (o : ParsedOrder) :
    ParsedOrder.record.read o.toJson.document = .ok o :=
  Record.read_of_writesAll (by decide)
    (.cons (.always (text_string o.attr)) (.cons (.always (flag_bool o.descending))
    (.last (.always (listOrNull_array fun _ _ => rfl)))))

theorem ParsedFacetKey.read_toJson (k : ParsedFacetKey) :
    ParsedFacetKey.record.read k.toJson.document = .ok k :=
  Record.read_of_writesAll (by decide)
    (.cons (.always (text_string k.key)) (.last (.always (text_string k.aliasName))))

theorem ParsedFacetRequest.read_toJson (r : ParsedFacetRequest) :
    ParsedFacetRequest.record.read r.toJson.document = .ok r :=
  Record.read_of_writesAll (by decide)
    (.cons (.always (flag_bool r.allKeys))
    (.last (.always (listOrNull_array fun k _ => k.read_toJson))))

theorem ParsedGroupKey.read_toJson (g : ParsedGroupKey) :
    ParsedGroupKey.record.read g.toJson.document = .ok g :=
  Record.read_of_writesAll (by decide)
    (.cons (.always (text_string g.attr)) (.cons (.always (text_string g.aliasName))
    (.last (.always (listOrNull_array fun _ _ => rfl)))))

/-! ## Queries -/

/-- A parsed query whose expressions are legible, at any depth. -/
inductive ParsedQuery.Legible : ParsedQuery → Prop where
  | intro {q : ParsedQuery} (hmath : ∀ e, q.clause.math = some e → e.Legible)
      (hchildren : ∀ c ∈ q.children, Legible c) : Legible q

/-- A field of the clause has no say in whether a parsed query is legible, but for the
expression. -/
theorem Field.keeps_ofParsedClause {β : Type} {name : String} {r : Reading β}
    {set : β → ParsedClause → ParsedClause} (h : ∀ v c, (set v c).math = c.math) :
    (ofParsedClause name r set).Keeps ParsedQuery.Legible := by
  refine keeps_of fun v q hq => ?_
  obtain ⟨hmath, hchildren⟩ := hq
  refine ⟨fun e he => hmath e ?_, hchildren⟩
  rwa [h] at he

namespace ParsedQuery

theorem keeps_legible : record.Keeps Legible where
  initial := .intro (fun _ h => by simp [record] at h) fun _ h => absurd h List.not_mem_nil
  fields := by
    have hmath : (Field.ofParsedClause "MathExp" (.optional ParsedMathExpr.record.read)
        fun v c => { c with math := v }).Keeps Legible := by
      refine Field.keeps_of_reading
        (fun _ _ => Reading.of_optional ParsedMathExpr.keeps_legible.forall_read)
        fun v q hv hq => ?_
      obtain ⟨-, hchildren⟩ := hq
      exact ⟨hv, hchildren⟩
    have hchildren : (Field.nested ["Children"] true fun v (q : ParsedQuery) =>
        { q with children := v }).Keeps Legible := by
      intro children q hnew hq
      obtain ⟨hmath, -⟩ := hq
      exact ⟨hmath, hnew⟩
    simp [record, Field.keeps_ofParsedClause, hmath, hchildren]

theorem allToJson_eq_map (qs : List ParsedQuery) : allToJson qs = qs.map toJson := by
  induction qs with
  | nil => rfl
  | cons q rest ih => rw [allToJson, ih, List.map_cons]

theorem read_toJson : ∀ {q : ParsedQuery}, q.Legible → record.read q.toJson.document = .ok q
  | ⟨c, children⟩, .intro hmath hchildren => by
    rw [toJson, allToJson_eq_map]
    exact Record.read_of_writesAll (by decide)
      (.cons (.always (listOrNull_array fun u _ => Reading.uid_ofUid u))
      (.cons (.always (text_string c.attr)) (.cons (.always (listOrNull_array fun _ _ => rfl))
      (.cons (.always (text_string c.aliasName)) (.cons (.always (flag_bool c.isCount))
      (.cons (.always (flag_bool c.isInternal)) (.cons (.always (flag_bool c.isGroupBy))
      (.cons (.always (text_string c.variableName))
      (.cons (.always (listOrNull_array fun u _ => u.read_toJson))
      (.cons (.always (optional_orNull fun c _ => c.read_toJson))
      (.cons (.always (text_string c.expand)) (.cons (.always (textsOrNull_ofTexts c.arguments))
      (.cons (.always (listOrNull_array fun o _ => o.read_toJson))
      (.cons (.nestedAlways fun n hn => read_toJson (hchildren n hn))
      (.cons (.always (optional_orNull fun f _ => f.read_toJson))
      (.cons (.always (optional_orNull fun e he => ParsedMathExpr.read_toJson (hmath e he)))
      (.cons (.always (flag_bool c.normalize)) (.cons (.always (flag_bool c.recurse))
      (.cons (.always (flag_bool c.cascade)) (.cons (.always (flag_bool c.ignoreReflex))
      (.cons (.always (optional_orNull fun f _ => f.read_toJson))
      (.cons (.always (optional_orNull fun f _ => f.read_toJson))
      (.cons (.always (listOrNull_array fun g _ => g.read_toJson))
      (.cons (.always (textsOrNull_ofTexts c.facetVariables))
      (.cons (.always (text_string c.facetOrder))
      (.last (.always (flag_bool c.facetDescending))))))))))))))))))))))))))))

end ParsedQuery

end Dql
