import Dql.Proofs.Json.Parts
import Dql.Proofs.Query.Spelling
import Mathlib.Data.List.Forall2

/-!
# Values of any form in query trees

A fallback and the value of a constant may be any JSON value, and the keys of its objects may be
those of fields. Exchanged in a document (`Query.Refills`), such a value changes nothing else in
the query that is read: `Query.blank` is what is left of a query without these values, and since
no field of a query makes more of it depend on them (`Query.respects_blank`), it stays as it was
(`Query.Refills.follows`). What is read in their places is what the document has there
(`Query.verbatim_of_read`), as their fields alone decide it.

Together with the keys that have two names this is `Query.spellings_agree`: names matter where a
record is read, and nowhere else.
-/

namespace Dql

/-! ## Other values in their places -/

/-- The content of a field is exchanged for another one that has a value. -/
def Document.Refilled (_ c' : Document) : Prop := c'.value?.isSome = true

/-- The value of a scalar is exchanged for another one. -/
def Scalar.Refills : Document → Document → Prop :=
  Scalar.record.Refills [("value", Document.Refilled)]

/-- The value of a constant is exchanged for another one. -/
def MathExpr.Refills : Document → Document → Prop :=
  MathExpr.record.Refills [("const", Scalar.Refills)]

/-- A fallback or the value of a constant is exchanged for another one. -/
def Query.Refills : Document → Document → Prop :=
  Query.record.Refills [("default", Document.Refilled), ("mathExp", MathExpr.Refills)]

/-- A scalar without its value. -/
def Scalar.blank (s : Scalar) : Scalar := { s with value := .null }

mutual

/-- An expression without the values of its constants. -/
def MathExpr.blank : MathExpr → MathExpr
  | ⟨fn, variableName, constant, values, operands⟩ =>
    ⟨fn, variableName, constant.blank, values, MathExpr.blankAll operands⟩

/-- Expressions without the values of their constants. -/
def MathExpr.blankAll : List MathExpr → List MathExpr
  | [] => []
  | e :: rest => e.blank :: MathExpr.blankAll rest

end

/-- A clause without the values of constants. -/
def Clause.blank (c : Clause) : Clause :=
  { c with math := c.math.map MathExpr.blank }

mutual

/-- A query without fallbacks and without the values of constants. -/
def Query.blank : Query → Query
  | ⟨clause, _, children⟩ => ⟨clause.blank, none, Query.blankAll children⟩

/-- Queries without fallbacks and without the values of constants. -/
def Query.blankAll : List Query → List Query
  | [] => []
  | q :: rest => q.blank :: Query.blankAll rest

end

section

variable {d d' : Document}

theorem Reading.exists_optional_value (h : d.value?.isSome = true) :
    ∃ o, Reading.optional .value d = .ok o := by
  obtain ⟨j, hj⟩ := Option.isSome_iff_exists.1 h
  unfold Reading.optional
  split
  · exact ⟨none, rfl⟩
  · exact ⟨some j, by rw [Reading.value_eq_ok_iff.2 hj]; rfl⟩

theorem Scalar.respects_blank : record.Respects blank where
  change := by
    simp only [record, List.forall_mem_cons]
    exact ⟨Record.respected_of (fun v s => { s with typeId := v }) fun _ _ => rfl,
      Record.respected_of (fun _ s => s) fun _ _ => rfl, by simp⟩
  nested := by simp [record, Field.of]

theorem Scalar.Refills.follows (h : Scalar.Refills d d') :
    Follows Scalar.blank (Scalar.record.read d) (Scalar.record.read d') := by
  refine Record.Refills.follows Scalar.lawful Scalar.respects_blank ?_ h
  rw [List.forall_mem_singleton]
  refine ⟨_, List.mem_of_getElem? (i := 1) rfl, rfl, fun hvalue a ha => ?_⟩
  obtain ⟨v, -, rfl⟩ := exists_of_map_eq_ok ha
  obtain ⟨w, hw⟩ := Option.isSome_iff_exists.1 hvalue
  refine ⟨fun s => { s with value := w }, ?_, fun _ => rfl⟩
  show (Reading.value _).map _ = _
  rw [Reading.value_eq_ok_iff.2 hw]
  rfl

namespace MathExpr

theorem blankAll_eq_map (es : List MathExpr) : blankAll es = es.map blank := by
  induction es with
  | nil => rfl
  | cons e rest ih => rw [blankAll, ih, List.map_cons]

theorem blank_eq (e : MathExpr) :
    e.blank = { e with constant := e.constant.blank, operands := e.operands.map blank } := by
  obtain ⟨fn, variableName, constant, values, operands⟩ := e
  rw [blank, blankAll_eq_map]

theorem respects_blank : record.Respects blank where
  change := by
    simp only [record, List.forall_mem_cons]
    refine ⟨Record.respected_of (fun v e => { e with fn := v }) fun _ _ => ?_,
      Record.respected_of (fun v e => { e with variableName := v }) fun _ _ => ?_,
      Record.respected_of (fun v e => { e with constant := v.blank }) fun _ _ => ?_,
      Record.respected_of (fun v e => { e with values := v }) fun _ _ => ?_,
      Record.respected_nested (fun v e => { e with operands := v.map blank }) fun _ _ => ?_,
      by simp⟩
    all_goals rw [blank_eq, blank_eq]
  nested := by
    simp only [record, Field.of, List.mem_cons, reduceCtorEq, false_or, List.not_mem_nil, or_false,
      Field.nested.injEq]
    rintro _ _ _ ⟨rfl, rfl, rfl⟩ es es' hes e
    rw [blank_eq, blank_eq, hes]

theorem Refills.follows (h : MathExpr.Refills d d') :
    Follows blank (record.read d) (record.read d') := by
  refine Record.Refills.follows lawful respects_blank ?_ h
  rw [List.forall_mem_singleton]
  refine ⟨_, List.mem_of_getElem? (i := 2) rfl, rfl, fun hc => ?_⟩
  refine Record.carries_of (Scalar.Refills.follows hc) fun s s' e hs => ?_
  rw [blank_eq, blank_eq, hs]

end MathExpr

namespace Query

theorem blankAll_eq_map (qs : List Query) : blankAll qs = qs.map blank := by
  induction qs with
  | nil => rfl
  | cons q rest ih => rw [blankAll, ih, List.map_cons]

theorem blank_eq (q : Query) :
    q.blank = { clause := q.clause.blank, children := q.children.map blank } := by
  obtain ⟨clause, fallback, children⟩ := q
  rw [blank, blankAll_eq_map]

theorem respected_ofClause {β : Type} {names : List String} {rd : Reading β}
    {set : β → Clause → Clause}
    (h : ∀ v c, (set v c).blank = set v c.blank) :
    record.Respected blank (.ofClause names rd set) := by
  refine Record.respected_of (fun v q => { q with clause := set v q.clause }) fun v q => ?_
  rw [blank_eq, blank_eq, h]

theorem respects_blank : record.Respects blank where
  change := by
    have hfallback : record.Respected blank
        (.of ["default"] (.optional .value) fun v q => { q with fallback := v }) := by
      -- what is left of the query does not have the fallback
      refine Record.respected_of (fun _ q => q) fun v q => ?_
      rw [blank_eq, blank_eq]
    have hmath : record.Respected blank (.ofClause ["mathExp"]
        (.optional MathExpr.record.read) fun v c => { c with math := v }) := by
      refine Record.respected_of (fun v q =>
        { q with clause := { q.clause with math := v.map MathExpr.blank } }) fun v q => ?_
      rw [blank_eq, blank_eq]
      rfl
    have hchildren : record.Respected blank
        (.nested ["children"] false fun v q => { q with children := v }) := by
      refine Record.respected_nested (fun v q => { q with children := v.map blank }) fun v q => ?_
      rw [blank_eq, blank_eq]
    simp only [record, List.forall_mem_cons]
    repeat' apply And.intro
    all_goals first
      | exact hfallback
      | exact hmath
      | exact hchildren
      | exact respected_ofClause fun _ _ => rfl
      | exact fun _ h => absurd h List.not_mem_nil
  nested := by
    simp only [record, Field.of, Field.ofClause, List.mem_cons, reduceCtorEq, false_or,
      List.not_mem_nil, or_false, Field.nested.injEq]
    rintro _ _ _ ⟨rfl, rfl, rfl⟩ qs qs' hqs q
    rw [blank_eq, blank_eq, hqs]

theorem Refills.follows (h : Query.Refills d d') :
    Follows blank (record.read d) (record.read d') := by
  refine Record.Refills.follows lawful respects_blank ?_ h
  simp only [List.forall_mem_cons]
  refine ⟨⟨_, List.mem_of_getElem? (i := 4) rfl, rfl, fun hvalue a ha => ?_⟩,
    ⟨_, List.mem_of_getElem? (i := 16) rfl, rfl, fun hc => ?_⟩, by simp⟩
  · obtain ⟨v, -, rfl⟩ := exists_of_map_eq_ok ha
    obtain ⟨w, hw⟩ := Reading.exists_optional_value hvalue
    refine ⟨fun q => { q with fallback := w }, ?_, fun q => by rw [blank_eq, blank_eq]⟩
    show (Reading.optional .value _).map _ = _
    rw [hw]
    rfl
  · refine Record.carries_of (Reading.optional_follows (MathExpr.Refills.follows hc) hc.ne_null)
      fun o o' q ho => ?_
    rw [blank_eq, blank_eq, Clause.blank, Clause.blank]
    dsimp only
    rw [ho]

end Query

end

/-! ## Values as they are written -/

/-- The values of the constants in an expression, at every depth, are those of the document. -/
inductive MathExpr.Verbatim : Document → MathExpr → Prop where
  | intro {d : Document} {e : MathExpr}
      (constant : e.constant.value =
        ((record.content? ["const"] d).map (Scalar.record.valueAt ["value"])).getD .null)
      (operands : List.Forall₂ Verbatim (record.itemsAt ["children", "child"] d) e.operands) :
      Verbatim d e

/-- The fallbacks in a query and the values of the constants in its expressions, at every depth,
are those of the document; a fallback of `null` is none. -/
inductive Query.Verbatim : Document → Query → Prop where
  | intro {d : Document} {q : Query}
      (fallback : q.fallback = Option.guard (fun j => !j.isNull) (record.valueAt ["default"] d))
      (math : ∀ e, q.clause.math = some e →
        ∃ c, record.content? ["mathExp"] d = some c ∧ MathExpr.Verbatim c e)
      (children : List.Forall₂ Verbatim (record.itemsAt ["children"] d) q.children) :
      Verbatim d q

section

variable {d : Document}

theorem Scalar.value_of_read {s : Scalar} (h : record.read d = .ok s) :
    s.value = record.valueAt ["value"] d := by
  refine Record.value_of_read lawful (Record.decides_of (List.mem_of_getElem? (i := 1) rfl)
    (fun _ _ => rfl) ?_) rfl h
  simp [record, Field.of, Record.leaves_of]

namespace MathExpr

theorem decides_constant :
    record.Decides (.of ["const"] Scalar.record.read fun v e => { e with constant := v })
      MathExpr.constant fun c s => Scalar.record.read c = .ok s := by
  refine Record.decides_of (List.mem_of_getElem? (i := 2) rfl) (fun _ _ => rfl) ?_
  simp [record, Field.of, Record.leaves_of, Record.leaves_nested]

theorem decides_operands :
    record.Decides (.nested ["children", "child"] false fun v e => { e with operands := v })
      MathExpr.operands fun c es => record.readNested false c = .ok es := by
  refine Record.decides_nested (List.mem_of_getElem? (i := 4) rfl) (fun _ _ => rfl) ?_
  simp [record, Field.of, Record.leaves_of]

theorem constant_of_read {e : MathExpr} (h : record.read d = .ok e) :
    e.constant.value =
      ((record.content? ["const"] d).map (Scalar.record.valueAt ["value"])).getD .null := by
  obtain ⟨hgiven, habsent⟩ := Record.part_of_read lawful decides_constant h
  change ∀ c, record.content? ["const"] d = some c → _ at hgiven
  change record.content? ["const"] d = none → _ at habsent
  cases hc : record.content? ["const"] d with
  | none =>
    -- the constant of the initial expression has no value
    rw [habsent hc]
    rfl
  | some c => exact Scalar.value_of_read (hgiven c hc)

/-- An expression that was read holds the values of its document. -/
theorem verbatim_of_read {d : Document} :
    ∀ e : MathExpr, record.read d = .ok e → Verbatim d e
  | ⟨_, _, _, _, operands⟩, h => by
    refine .intro (constant_of_read h) (Reading.forall₂_of_items
      (Record.items_of_read lawful decides_operands rfl h) fun e he c hc => ?_)
    exact verbatim_of_read e hc
termination_by e => sizeOf e
decreasing_by
  have hlt : sizeOf e < sizeOf operands := List.sizeOf_lt_of_mem he
  rw [MathExpr.mk.sizeOf_spec]
  omega

end MathExpr

namespace Query

theorem decides_fallback :
    record.Decides (.of ["default"] (.optional .value) fun v q => { q with fallback := v })
      Query.fallback fun c o => Reading.optional .value c = .ok o := by
  refine Record.decides_of (List.mem_of_getElem? (i := 4) rfl) (fun _ _ => rfl) ?_
  simp [record, Field.of, Field.ofClause, Record.leaves_of, Record.leaves_nested]

theorem decides_math :
    record.Decides (.ofClause ["mathExp"] (.optional MathExpr.record.read)
      fun v c => { c with math := v })
      (fun q => q.clause.math) fun c o => Reading.optional MathExpr.record.read c = .ok o := by
  refine Record.decides_of (List.mem_of_getElem? (i := 16) rfl) (fun _ _ => rfl) ?_
  simp [record, Field.of, Field.ofClause, Record.leaves_of, Record.leaves_nested]

theorem decides_children :
    record.Decides (.nested ["children"] false fun v q => { q with children := v })
      Query.children fun c qs => record.readNested false c = .ok qs := by
  refine Record.decides_nested (List.mem_of_getElem? (i := 14) rfl) (fun _ _ => rfl) ?_
  simp [record, Field.of, Field.ofClause, Record.leaves_of]

theorem math_of_read {q : Query} (h : record.read d = .ok q) {e : MathExpr}
    (he : q.clause.math = some e) :
    ∃ c, record.content? ["mathExp"] d = some c ∧ MathExpr.Verbatim c e := by
  obtain ⟨hgiven, habsent⟩ := Record.part_of_read lawful decides_math h
  cases hc : record.content? ["mathExp"] d with
  | none =>
    rw [habsent hc] at he
    exact absurd he (by simp [record])
  | some c =>
    have hread := hgiven c hc
    rw [he] at hread
    exact ⟨c, rfl, MathExpr.verbatim_of_read e (Reading.of_optional_eq_some hread)⟩

/-- **A query that was read** holds the values of its document. -/
theorem verbatim_of_read {d : Document} :
    ∀ q : Query, record.read d = .ok q → Verbatim d q
  | ⟨_, _, children⟩, h => by
    refine .intro
      (Record.optional_value_of_read lawful decides_fallback rfl h)
      (fun e he => math_of_read h he)
      (Reading.forall₂_of_items (Record.items_of_read lawful decides_children rfl h)
        fun q hq c hc => ?_)
    exact verbatim_of_read q hc
termination_by q => sizeOf q
decreasing_by
  have hlt : sizeOf q < sizeOf children := List.sizeOf_lt_of_mem hq
  rw [Query.mk.sizeOf_spec]
  omega

end Query

end

/-! ## Older spellings -/

namespace Query

/-- **A query means the same in every spelling.** The keys that have an older name are those
listed, each in the records named. Written under the other of their names, in any number of places
at any depth, they leave the query that is read as it was; a key that is given together with its
alias is refused, wherever it is. Neither rule reaches into values of any form: another value in
the place of a fallback or of a constant changes nothing else, whatever its keys are, and what is
read there is what the document says. -/
theorem spellings_agree :
    (record.aliases = [("ids", "uid"), ("varName", "var"), ("neededVars", "needsVar")] ∧
      Call.record.aliases = [("ids", "uid"), ("neededVars", "needsVar")] ∧
      VariableUse.record.aliases = [("kind", "typ")] ∧
      Argument.record.aliases = [("isGraphVar", "isGraphQLVar")] ∧
      Filter.record.aliases = [("children", "child")] ∧
      MathExpr.record.aliases = [("children", "child")] ∧
      Scalar.record.aliases = [] ∧ Order.record.aliases = [] ∧ FacetKey.record.aliases = [] ∧
      FacetRequest.record.aliases = [] ∧ GroupKey.record.aliases = []) ∧
    (∀ d d' q, record.read d = .ok q → Relation.ReflTransGen Respells d d' →
      record.read d' = .ok q) ∧
    (∀ d, Doubled d → ∃ e, record.read d = .error e) ∧
    (∀ d d' q, record.read d = .ok q → Relation.ReflTransGen Refills d d' →
      ∃ q', record.read d' = .ok q' ∧ q'.blank = q.blank) ∧
    (∀ d q, record.read d = .ok q → Verbatim d q) := by
  refine ⟨⟨rfl, rfl, rfl, rfl, rfl, rfl, rfl, rfl, rfl, rfl, rfl⟩, fun d d' q hq hsteps => ?_,
    fun d hd => ?_, fun d d' q hq hsteps => ?_, fun d q hq => verbatim_of_read q hq⟩
  · obtain ⟨q', hq', rfl⟩ := Follows.of_reflTransGen (·.follows) hsteps q hq
    exact hq'
  · cases hread : record.read d with
    | ok q => exact absurd hread (hd.refused q)
    | error e => exact ⟨e, rfl⟩
  · exact Follows.of_reflTransGen (·.follows) hsteps q hq

/-- A call that uses a variable, the kind of which stands under one of its two keys. -/
def callUnder (kind : String) : Document :=
  .object [(⟨"needsVar", false⟩,
    .array [.object [(⟨"name", false⟩, .string "L"), (⟨kind, false⟩, .number (.int 1))]])]

/-- A query that is filtered by the negation of such a call, with its identifiers under one of
their two keys. -/
def queryUnder (ids kind : String) (fallback : Document) : Document :=
  .object [(⟨ids, false⟩, .array [.number (.int 7)]),
    (⟨"filter", false⟩, .object [(⟨"op", false⟩, .string "not"),
      (⟨"child", false⟩, .array [.object [(⟨"func", false⟩, callUnder kind)]])]),
    (⟨"default", false⟩, fallback)]

/-- A fallback with the two keys of identifiers. -/
def identifiersFallback : Document :=
  .object [(⟨"uid", false⟩, .number (.int 1)), (⟨"ids", false⟩, .number (.int 2))]

theorem callUnder_respells : Call.Respells (callUnder "typ") (callUnder "kind") := by
  have huse : VariableUse.Respells
      (.object [(⟨"name", false⟩, .string "L"), (⟨"typ", false⟩, .number (.int 1))])
      (.object [(⟨"name", false⟩, .string "L"), (⟨"kind", false⟩, .number (.int 1))]) :=
    .here (.key [_] [] (List.mem_of_getElem? (i := 1) rfl) (by decide) (by decide))
  exact .inside (List.mem_of_getElem? (i := 5) rfl) (List.mem_of_getElem? (i := 1) rfl)
    (.intro [] [] huse) (.member [] [] (by decide))

theorem queryUnder_respells (fallback : Document) :
    Relation.ReflTransGen Respells (queryUnder "uid" "typ" fallback)
      (queryUnder "ids" "kind" fallback) := by
  have hids : Respells (queryUnder "uid" "typ" fallback) (queryUnder "ids" "typ" fallback) :=
    .here (.key [] _ (List.mem_of_getElem? (i := 0) rfl) (by decide) (by decide))
  have hoperand : Filter.Respells (.object [(⟨"func", false⟩, callUnder "typ")])
      (.object [(⟨"func", false⟩, callUnder "kind")]) :=
    .inside (List.mem_of_getElem? (i := 2) rfl) (List.mem_of_getElem? (i := 0) rfl)
      callUnder_respells (.member [] [] (by decide))
  have hkind : Respells (queryUnder "ids" "typ" fallback) (queryUnder "ids" "kind" fallback) := by
    refine .inside (List.mem_of_getElem? (i := 15) rfl) (List.mem_of_getElem? (i := 2) rfl)
      ?_ (.member [_] [_] (by decide))
    exact .nested [] [] (List.mem_of_getElem? (i := 1) rfl) hoperand (.member [_] [] (by decide))
  exact (Relation.ReflTransGen.single hids).tail hkind

theorem queryUnder_refills (ids kind : String) (fallback : Document) :
    Relation.ReflTransGen Refills (queryUnder ids kind fallback)
      (queryUnder ids kind identifiersFallback) := by
  have hvalue : Document.Refilled fallback identifiersFallback := rfl
  exact .single (.inside (List.mem_of_getElem? (i := 4) rfl) (List.mem_of_getElem? (i := 0) rfl)
    hvalue (.member [_, _] [] (by decide)))

theorem spellings_agree_negation :
    ∃ q, record.read (queryUnder "uid" "typ" (.bool true)) = .ok q ∧
      record.read (queryUnder "ids" "kind" (.bool true)) = .ok q ∧
      (∃ e, record.read (.object [(⟨"filter", false⟩,
        .object [(⟨"child", false⟩, .array []), (⟨"children", false⟩, .array [])])]) = .error e) ∧
      (∃ q', record.read (queryUnder "ids" "kind" identifiersFallback) = .ok q' ∧
        q'.blank = q.blank) ∧
      Verbatim (queryUnder "uid" "typ" (.bool true)) q := by
  obtain ⟨-, hrespelled, hdoubled, hrefilled, hverbatim⟩ := spellings_agree
  have hread : record.read (queryUnder "uid" "typ" (.bool true)) = .ok {
      clause := {
        ids := [7]
        filter := some { op := "not", operands := [{ call := some { uses := [⟨"L", .nodes⟩] } }] } }
      fallback := some (.bool true) } := rfl
  have hmodern := hrespelled _ _ _ hread (queryUnder_respells _)
  refine ⟨_, hread, hmodern, hdoubled _ ?_, hrefilled _ _ _ hmodern (queryUnder_refills _ _ _),
    hverbatim _ _ hread⟩
  refine .inside (m := ⟨⟨"filter", false⟩, _⟩) (List.mem_of_getElem? (i := 15) rfl)
    (List.mem_of_getElem? (i := 2) rfl) ?_ List.mem_cons_self (by decide)
  exact .here (m := ⟨⟨"child", false⟩, _⟩) (n := ⟨⟨"children", false⟩, _⟩)
    (List.mem_of_getElem? (i := 1) rfl) (List.mem_of_getElem? (i := 0) rfl)
    (List.mem_of_getElem? (i := 1) rfl) (by decide) (by decide) (by decide)

end Query

end Dql
