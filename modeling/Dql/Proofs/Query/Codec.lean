import Dql.Query.Codec
import Dql.Proofs.Json.Reading

/-!
# Query trees are read back

Whatever a record of a query tree is read from, older names and lists of field values
included, it is read again from what it is written as. For most records this holds of
every value, read or not. It does not where JSON is carried along, in a scalar and in a
fallback: the members of an object may have to be put in order, and a fallback of `null`
would be read as none. No record that was read is of this kind (`Query.Legible`), and
every record that is not is read back.
-/

namespace Dql

/-! ## Calls and filters -/

theorem VariableUse.read_toJson (u : VariableUse) :
    VariableUse.record.read u.toJson.document = .ok u :=
  Record.read_of_writesAll (by decide)
    (.cons (.always (Reading.text_string u.name)) (.last (.always (Reading.kind_ofNat u.kind))))

theorem Argument.read_toJson (a : Argument) : Argument.record.read a.toJson.document = .ok a := by
  unfold toJson
  rw [List.append_assoc]
  exact Record.read_of_writesAll (by decide)
    (.cons (.text rfl) (.cons (.flag rfl) (.last (.flag rfl))))

theorem Call.read_toJson (c : Call) : Call.record.read c.toJson.document = .ok c := by
  unfold toJson
  simp only [List.append_assoc]
  exact Record.read_of_writesAll (by decide)
    (.cons (.text rfl) (.cons (.text rfl) (.cons (.text rfl)
    (.cons (.list rfl fun a _ => a.read_toJson)
    (.cons (.list rfl fun u _ => Reading.uid_ofUid u)
    (.cons (.list rfl fun u _ => u.read_toJson)
    (.cons (.flag rfl) (.last (.flag rfl)))))))))

theorem Filter.allToJson_eq_map (fs : List Filter) :
    Filter.allToJson fs = fs.map Filter.toJson := by
  induction fs with
  | nil => rfl
  | cons f rest ih => rw [Filter.allToJson, ih, List.map_cons]

theorem Filter.read_toJson (f : Filter) :
    Filter.record.read f.toJson.document = .ok f := by
  obtain ⟨op, operands, call⟩ := f
  rw [toJson, allToJson_eq_map, List.append_assoc]
  exact Record.read_of_writesAll (by decide)
    (.cons (.text rfl) (.cons (.nestedList rfl fun f _ => f.read_toJson)
    (.last (.option rfl fun c _ => Reading.optional_read c.read_toJson))))

/-! ## Expressions -/

/-- A scalar whose value has its members in order. -/
def Scalar.Legible (s : Scalar) : Prop := s.value.Ordered

namespace Scalar

theorem eq_of_isEmpty {s : Scalar} (h : s.isEmpty = true) : s = {} := by
  obtain ⟨typeId, value⟩ := s
  rw [isEmpty, Bool.and_eq_true, beq_iff_eq] at h
  obtain ⟨rfl, hvalue⟩ := h
  obtain rfl := Json.eq_null_of_isNull hvalue
  rfl

theorem keeps_legible : record.Keeps Legible where
  initial := rfl
  fields := by
    simp only [record, List.forall_mem_cons]
    exact ⟨Field.keeps_of fun _ _ h => h,
      Field.keeps_of_reading (fun _ _ => Reading.ordered_of_value) fun _ _ h _ => h,
      fun f hf => absurd hf List.not_mem_nil⟩

theorem read_toJson {s : Scalar} (h : s.Legible) : record.read s.toJson.document = .ok s :=
  Record.read_of_writesAll (by decide)
    (.cons (.orAbsent (fun htype => by rw [htype]; rfl) fun _ => Reading.int32_ofInt32 s.typeId)
    (.last (.orAbsent (fun hnull => by rw [Json.eq_null_of_isNull hnull]; rfl) fun _ =>
      Reading.value_document h)))

end Scalar

/-- An expression in which every scalar is legible. -/
inductive MathExpr.Legible : MathExpr → Prop where
  | intro {e : MathExpr} (hconstant : e.constant.Legible)
      (hvalues : ∀ v ∈ e.values.entries, v.2.Legible)
      (hoperands : ∀ o ∈ e.operands, Legible o) : Legible e

namespace MathExpr

theorem keeps_legible : record.Keeps Legible where
  initial := .intro rfl (fun _ h => absurd h List.not_mem_nil) fun _ h => absurd h List.not_mem_nil
  fields := by
    have hscalar := Scalar.keeps_legible.forall_read
    have htable : ∀ d t, Reading.table Reading.uidKey Scalar.record.read d = .ok t →
        ∀ v ∈ t.entries, v.2.Legible := fun _ _ => Reading.of_table hscalar
    simp only [record, List.forall_mem_cons]
    refine ⟨Field.keeps_of fun _ _ h => ?_, Field.keeps_of fun _ _ h => ?_,
      Field.keeps_of_reading hscalar fun s _ hs h => ?_,
      Field.keeps_of_reading htable fun t _ ht h => ?_,
      fun es _ hes h => ?_, fun f hf => absurd hf List.not_mem_nil⟩
    all_goals obtain ⟨hconstant, hvalues, hoperands⟩ := h
    · exact ⟨hconstant, hvalues, hoperands⟩
    · exact ⟨hconstant, hvalues, hoperands⟩
    · exact ⟨hs, hvalues, hoperands⟩
    · exact ⟨hconstant, ht, hoperands⟩
    · exact ⟨hconstant, hvalues, hes⟩

theorem allToJson_eq_map (es : List MathExpr) : allToJson es = es.map toJson := by
  induction es with
  | nil => rfl
  | cons e rest ih => rw [allToJson, ih, List.map_cons]

theorem read_toJson : ∀ {e : MathExpr}, e.Legible → record.read e.toJson.document = .ok e
  | ⟨fn, variableName, constant, values, operands⟩, .intro hconstant hvalues hoperands => by
    rw [toJson, allToJson_eq_map]
    simp only [List.append_assoc]
    exact Record.read_of_writesAll (by decide)
      (.cons (.text rfl) (.cons (.text rfl)
      (.cons (.orAbsent (fun h => by obtain rfl := Scalar.eq_of_isEmpty h; rfl) fun _ =>
        Scalar.read_toJson hconstant)
      (.cons (.orAbsent (fun h => by obtain rfl := Table.eq_empty_of_isEmpty h; rfl) fun _ =>
        Reading.table_object Json.uidKey Scalar.toJson Reading.uidKey_uidKey fun v hv =>
          Scalar.read_toJson (hvalues v hv))
      (.last (.nestedList rfl fun e he => read_toJson (hoperands e he)))))))

end MathExpr

/-! ## Parts of a clause -/

theorem Order.read_toJson (o : Order) : Order.record.read o.toJson.document = .ok o := by
  unfold toJson
  rw [List.append_assoc]
  exact Record.read_of_writesAll (by decide)
    (.cons (.always (Reading.text_string o.attr)) (.cons (.flag rfl)
    (.last (.list rfl fun _ _ => rfl))))

theorem FacetKey.read_toJson (k : FacetKey) : FacetKey.record.read k.toJson.document = .ok k :=
  Record.read_of_writesAll (by decide)
    (.cons (.always (Reading.text_string k.key)) (.last (.text rfl)))

theorem FacetRequest.read_toJson (r : FacetRequest) :
    FacetRequest.record.read r.toJson.document = .ok r :=
  Record.read_of_writesAll (by decide)
    (.cons (.flag rfl) (.last (.list rfl fun k _ => k.read_toJson)))

theorem GroupKey.read_toJson (g : GroupKey) : GroupKey.record.read g.toJson.document = .ok g := by
  unfold toJson
  rw [List.append_assoc]
  exact Record.read_of_writesAll (by decide)
    (.cons (.always (Reading.text_string g.attr)) (.cons (.text rfl)
    (.last (.list rfl fun _ _ => rfl))))

/-! ## Queries -/

/-- The fallback of a node has a property, its expression is legible, and so are the nodes nested
below. -/
inductive Query.LegibleWith (P : Option Json → Prop) : Query → Prop where
  | intro {q : Query} (hfallback : P q.fallback) (hmath : ∀ e, q.clause.math = some e → e.Legible)
      (hchildren : ∀ c ∈ q.children, LegibleWith P c) : LegibleWith P q

namespace Field

variable {β : Type} {P : Option Json → Prop} {names : List String}

/-- A field of the clause has no say in whether a node is legible, but for the expression. -/
theorem keeps_ofClause {r : Reading β} {set : β → Clause → Clause}
    (h : ∀ v c, (set v c).math = c.math) :
    (ofClause names r set).Keeps (Query.LegibleWith P) := by
  refine keeps_of fun v n hn => ?_
  obtain ⟨hfallback, hmath, hchildren⟩ := hn
  refine ⟨hfallback, fun e he => hmath e ?_, hchildren⟩
  rwa [h] at he

/-- Expressions that are read leave a node legible. -/
theorem keeps_ofClause_math {r : Record MathExpr} (h : r.Keeps MathExpr.Legible) :
    (ofClause names (.optional r.read) fun v c => { c with math := v } :
      Field Query).Keeps (Query.LegibleWith P) := by
  refine keeps_of_reading (fun _ _ => Reading.of_optional h.forall_read) fun v n hv hn => ?_
  obtain ⟨hfallback, -, hchildren⟩ := hn
  exact ⟨hfallback, hv, hchildren⟩

/-- Nodes that are read leave the node above legible. -/
theorem keeps_nested_children {nullable : Bool} :
    (nested names nullable fun v n => { n with children := v } :
      Field Query).Keeps (Query.LegibleWith P) := by
  intro children n hnew hn
  obtain ⟨hfallback, hmath, -⟩ := hn
  exact ⟨hfallback, hmath, hnew⟩

end Field

namespace Query

/-- A fallback that can be told from none, with its members in order. -/
def LegibleFallback (fallback : Option Json) : Prop :=
  ∀ j, fallback = some j → j ≠ .null ∧ j.Ordered

/-- A query whose expressions and fallbacks are legible, at any depth. -/
def Legible (q : Query) : Prop := Query.LegibleWith LegibleFallback q

theorem legibleFallback_of_read {d : Document} {fallback : Option Json}
    (h : Reading.optional .value d = .ok fallback) : LegibleFallback fallback := by
  rintro j rfl
  refine ⟨?_, Reading.of_optional (fun _ _ => Reading.ordered_of_value) h j rfl⟩
  rintro rfl
  unfold Reading.optional at h
  split at h
  · simp at h
  next hd =>
    obtain ⟨j, hj, hnull⟩ := exists_of_map_eq_ok h
    obtain rfl := Option.some.inj hnull
    exact hd (Reading.eq_null_of_value hj)

theorem keeps_legible : record.Keeps Legible where
  initial := .intro (fun _ h => by simp [record] at h) (fun _ h => by simp [record] at h)
    fun _ h => absurd h List.not_mem_nil
  fields := by
    have hfallback : (Field.of ["default"] (.optional .value) fun v (q : Query) =>
        { q with fallback := v }).Keeps Legible := by
      refine Field.keeps_of_reading (fun _ _ => legibleFallback_of_read) fun v q hv hq => ?_
      obtain ⟨-, hmath, hchildren⟩ := hq
      exact ⟨hv, hmath, hchildren⟩
    unfold Legible at hfallback ⊢
    simp [record, Field.keeps_ofClause, Field.keeps_ofClause_math MathExpr.keeps_legible,
      Field.keeps_nested_children, hfallback]

theorem toJson_eq (q : Query) :
    q.toJson = .object (q.clause.members q.fallback (q.children.map toJson)) := by
  obtain ⟨clause, fallback, children⟩ := q
  rw [toJson, allToJson_eq_map]

theorem read_toJson : ∀ {q : Query}, q.Legible → record.read q.toJson.document = .ok q
  | ⟨clause, fallback, children⟩, .intro hfallback hmath hchildren => by
    have hfallback : ∀ j, fallback = some j →
        Reading.optional .value (id j).document = .ok (some j) := by
      intro j hj
      obtain ⟨hnull, hordered⟩ := hfallback j hj
      exact Reading.optional_of_ne_null (Json.document_ne_null hnull)
        (Reading.value_document hordered)
    rw [toJson_eq]
    -- one step for each field, in the order of the record;
    -- the equation of `Clause.members` is costly to derive, its unfolding is not
    delta Clause.members
    simp only [List.append_assoc]
    exact Record.read_of_writesAll (by decide)
      (.cons (.list rfl fun u _ => Reading.uid_ofUid u) (.cons (.text rfl)
      (.cons (.list rfl fun _ _ => rfl) (.cons (.text rfl)
      (.cons (.option rfl hfallback)
      (.cons (.flag rfl) (.cons (.flag rfl) (.cons (.flag rfl) (.cons (.text rfl)
      (.cons (.list rfl fun u _ => u.read_toJson)
      (.cons (.option rfl fun c _ => Reading.optional_read c.read_toJson)
      (.cons (.text rfl) (.cons (.texts rfl) (.cons (.list rfl fun o _ => o.read_toJson)
      (.cons (.nestedList rfl fun c hc => read_toJson (hchildren c hc))
      (.cons (.option rfl fun f _ => Reading.optional_read f.read_toJson)
      (.cons (.option rfl fun e he => Reading.optional_read (MathExpr.read_toJson (hmath e he)))
      (.cons (.flag rfl) (.cons (.flag rfl) (.cons (.flag rfl) (.cons (.flag rfl)
      (.cons (.option rfl fun f _ => Reading.optional_read f.read_toJson)
      (.cons (.option rfl fun f _ => Reading.optional_read f.read_toJson)
      (.cons (.texts rfl) (.cons (.text rfl) (.cons (.flag rfl)
      (.last (.list rfl fun g _ => g.read_toJson))))))))))))))))))))))))))))

end Query

/-! ## Blocks -/

namespace Block

/-- A block of legible queries. -/
def Legible (b : Block) : Prop := ∀ q ∈ b.queries, q.Legible

theorem keeps_legible : record.Keeps Legible where
  initial := fun _ h => absurd h List.not_mem_nil
  fields := by
    have hqueries : ∀ d qs, Reading.list Query.record.read d = .ok qs → ∀ q ∈ qs, q.Legible :=
      fun _ _ => Reading.of_list Query.keeps_legible.forall_read
    simp only [record, List.forall_mem_cons]
    exact ⟨Field.keeps_of_reading hqueries fun _ _ h _ => h, Field.keeps_of fun _ _ h => h,
      Field.keeps_of fun _ _ h => h, fun f hf => absurd hf List.not_mem_nil⟩

theorem read_toJson {b : Block} (h : b.Legible) : record.read b.toJson.document = .ok b := by
  unfold toJson
  rw [Query.allToJson_eq_map, List.append_assoc]
  exact Record.read_of_writesAll (by decide)
    (.cons (.always (Reading.list_array fun q hq => Query.read_toJson (h q hq)))
    (.cons (.text rfl) (.last (.texts rfl))))

end Block

end Dql
