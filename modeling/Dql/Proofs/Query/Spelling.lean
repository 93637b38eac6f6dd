import Dql.Proofs.Json.Spelling
import Dql.Query.Codec
import Mathlib.Data.List.Forall2

/-!
# Query trees in older spellings

Six of the records in a query tree have fields with an older name. `Query.Respells` is one step
of writing a query in another spelling: in an object of its own, in a query below it, or in the
content of one of the fields that hold other records. Each record lists these fields with the
step that is taken in them, so that no step leads into a field that is not listed. In the same
way `Query.Doubled` says that a key is given together with its alias somewhere.

What there is to prove of each record is that its fields share no name and change parts of their
own (`Query.lawful`), and that a step inside a field is one of the record that the field is read
as. The rest is true of any record: a step changes nothing in what is read
(`Query.Respells.follows`), and a field under two names is refused (`Query.Doubled.refused`).
-/

namespace Dql

/-! ## Records with fields of their own -/

theorem VariableUse.lawful : record.Lawful where
  named := by decide
  names := by decide
  commute := by simp [record, Field.of, Record.commute_of]

theorem Argument.lawful : record.Lawful where
  named := by decide
  names := by decide
  commute := by simp [record, Field.of, Record.commute_of]

theorem Call.lawful : record.Lawful where
  named := by decide
  names := by decide
  commute := by simp [record, Field.of, Record.commute_of]

theorem Filter.lawful : record.Lawful where
  named := by decide
  names := by decide
  commute := by
    simp [record, Field.of, Record.commute_of, Record.commute_nested, Record.nested_commute]

theorem Scalar.lawful : record.Lawful where
  named := by decide
  names := by decide
  commute := by simp [record, Field.of, Record.commute_of]

theorem MathExpr.lawful : record.Lawful where
  named := by decide
  names := by decide
  commute := by
    simp [record, Field.of, Record.commute_of, Record.commute_nested]

theorem Query.lawful : record.Lawful where
  named := by decide
  names := by decide
  commute := by
    simp only [record, List.pairwise_cons, List.forall_mem_cons]
    repeat' apply And.intro
    -- each field with each one behind it, and no field behind the last
    all_goals first
      | exact Record.commute_of fun _ _ _ => rfl
      | exact Record.commute_nested fun _ _ _ => rfl
      | exact Record.nested_commute fun _ _ _ => rfl
      | exact fun _ h => absurd h List.not_mem_nil
      | exact .nil

/-! ## Other spellings -/

/-- A variable use in another spelling. -/
def VariableUse.Respells : Document → Document → Prop :=
  VariableUse.record.Respells []

/-- An argument in another spelling. -/
def Argument.Respells : Document → Document → Prop :=
  Argument.record.Respells []

/-- A call in another spelling. -/
def Call.Respells : Document → Document → Prop :=
  Call.record.Respells
    [("args", Document.RewritesItem Argument.Respells),
      ("neededVars", Document.RewritesItem VariableUse.Respells)]

/-- A filter in another spelling. -/
def Filter.Respells : Document → Document → Prop :=
  Filter.record.Respells [("func", Call.Respells)]

/-- An expression in another spelling. -/
def MathExpr.Respells : Document → Document → Prop :=
  MathExpr.record.Respells []

/-- A query in another spelling. -/
def Query.Respells : Document → Document → Prop :=
  Query.record.Respells
    [("neededVars", Document.RewritesItem VariableUse.Respells), ("func", Call.Respells),
      ("filter", Filter.Respells), ("mathExp", MathExpr.Respells),
      ("facetsFilter", Filter.Respells)]

section

variable {d d' : Document}

theorem VariableUse.Respells.follows (h : VariableUse.Respells d d') :
    Follows (fun x => x) (VariableUse.record.read d) (VariableUse.record.read d') :=
  Record.Respells.follows VariableUse.lawful (by simp) h

theorem Argument.Respells.follows (h : Argument.Respells d d') :
    Follows (fun x => x) (Argument.record.read d) (Argument.record.read d') :=
  Record.Respells.follows Argument.lawful (by simp) h

theorem MathExpr.Respells.follows (h : MathExpr.Respells d d') :
    Follows (fun x => x) (MathExpr.record.read d) (MathExpr.record.read d') :=
  Record.Respells.follows MathExpr.lawful (by simp) h

theorem Call.Respells.follows (h : Call.Respells d d') :
    Follows (fun x => x) (Call.record.read d) (Call.record.read d') := by
  refine Record.Respells.follows Call.lawful ?_ h
  simp only [List.forall_mem_cons]
  exact ⟨⟨_, List.mem_of_getElem? (i := 3) rfl, rfl,
      Record.carries_list fun _ _ => Argument.Respells.follows⟩,
    ⟨_, List.mem_of_getElem? (i := 5) rfl, rfl,
      Record.carries_list fun _ _ => VariableUse.Respells.follows⟩, by simp⟩

theorem Filter.Respells.follows (h : Filter.Respells d d') :
    Follows (fun x => x) (Filter.record.read d) (Filter.record.read d') := by
  refine Record.Respells.follows Filter.lawful ?_ h
  simp only [List.forall_mem_cons]
  exact ⟨⟨_, List.mem_of_getElem? (i := 2) rfl, rfl,
    fun hc => Record.carries_optional hc.ne_null (Call.Respells.follows hc)⟩, by simp⟩

/-- **A query in another spelling** is the same query. -/
theorem Query.Respells.follows (h : Query.Respells d d') :
    Follows (fun x => x) (Query.record.read d) (Query.record.read d') := by
  refine Record.Respells.follows Query.lawful ?_ h
  simp only [List.forall_mem_cons]
  exact ⟨⟨_, List.mem_of_getElem? (i := 9) rfl, rfl,
      Record.carries_list fun _ _ => VariableUse.Respells.follows⟩,
    ⟨_, List.mem_of_getElem? (i := 10) rfl, rfl,
      fun hc => Record.carries_optional hc.ne_null (Call.Respells.follows hc)⟩,
    ⟨_, List.mem_of_getElem? (i := 15) rfl, rfl,
      fun hc => Record.carries_optional hc.ne_null (Filter.Respells.follows hc)⟩,
    ⟨_, List.mem_of_getElem? (i := 16) rfl, rfl,
      fun hc => Record.carries_optional hc.ne_null (MathExpr.Respells.follows hc)⟩,
    ⟨_, List.mem_of_getElem? (i := 22) rfl, rfl,
      fun hc => Record.carries_optional hc.ne_null (Filter.Respells.follows hc)⟩, by simp⟩

end

/-! ## Keys given with their aliases -/

/-- A variable use that gives a key together with its alias. -/
def VariableUse.Doubled : Document → Prop := VariableUse.record.Doubled []

/-- An argument that gives a key together with its alias. -/
def Argument.Doubled : Document → Prop := Argument.record.Doubled []

/-- A call that gives a key together with its alias, itself or in a part of it. -/
def Call.Doubled : Document → Prop :=
  Call.record.Doubled [("args", Document.HasItem Argument.Doubled),
    ("neededVars", Document.HasItem VariableUse.Doubled)]

/-- A filter that gives a key together with its alias, itself or in a part of it. -/
def Filter.Doubled : Document → Prop := Filter.record.Doubled [("func", Call.Doubled)]

/-- An expression that gives a key together with its alias, itself or in a part of it. -/
def MathExpr.Doubled : Document → Prop := MathExpr.record.Doubled []

/-- A query that gives a key together with its alias, itself or in a part of it. -/
def Query.Doubled : Document → Prop :=
  Query.record.Doubled [("neededVars", Document.HasItem VariableUse.Doubled),
    ("func", Call.Doubled), ("filter", Filter.Doubled), ("mathExp", MathExpr.Doubled),
    ("facetsFilter", Filter.Doubled)]

section

variable {d : Document}

theorem VariableUse.Doubled.refused (h : VariableUse.Doubled d) :
    ∀ u, VariableUse.record.read d ≠ .ok u :=
  Record.Doubled.refused VariableUse.lawful (by simp) h

theorem Argument.Doubled.refused (h : Argument.Doubled d) : ∀ a, Argument.record.read d ≠ .ok a :=
  Record.Doubled.refused Argument.lawful (by simp) h

theorem MathExpr.Doubled.refused (h : MathExpr.Doubled d) : ∀ e, MathExpr.record.read d ≠ .ok e :=
  Record.Doubled.refused MathExpr.lawful (by simp) h

theorem Call.Doubled.refused (h : Call.Doubled d) : ∀ c, Call.record.read d ≠ .ok c := by
  refine Record.Doubled.refused Call.lawful ?_ h
  simp only [List.forall_mem_cons]
  exact ⟨⟨_, List.mem_of_getElem? (i := 3) rfl, rfl,
      Record.change_list_ne_ok fun _ => Argument.Doubled.refused⟩,
    ⟨_, List.mem_of_getElem? (i := 5) rfl, rfl,
      Record.change_list_ne_ok fun _ => VariableUse.Doubled.refused⟩, by simp⟩

theorem Filter.Doubled.refused (h : Filter.Doubled d) : ∀ f, Filter.record.read d ≠ .ok f := by
  refine Record.Doubled.refused Filter.lawful ?_ h
  simp only [List.forall_mem_cons]
  exact ⟨⟨_, List.mem_of_getElem? (i := 2) rfl, rfl,
    fun hc => Record.change_optional_ne_ok hc.ne_null (Call.Doubled.refused hc)⟩, by simp⟩

/-- **A key and its alias in one object** are refused, wherever in the query they are. -/
theorem Query.Doubled.refused (h : Query.Doubled d) : ∀ q, Query.record.read d ≠ .ok q := by
  refine Record.Doubled.refused Query.lawful ?_ h
  simp only [List.forall_mem_cons]
  exact ⟨⟨_, List.mem_of_getElem? (i := 9) rfl, rfl,
      Record.change_list_ne_ok fun _ => VariableUse.Doubled.refused⟩,
    ⟨_, List.mem_of_getElem? (i := 10) rfl, rfl,
      fun hc => Record.change_optional_ne_ok hc.ne_null (Call.Doubled.refused hc)⟩,
    ⟨_, List.mem_of_getElem? (i := 15) rfl, rfl,
      fun hc => Record.change_optional_ne_ok hc.ne_null (Filter.Doubled.refused hc)⟩,
    ⟨_, List.mem_of_getElem? (i := 16) rfl, rfl,
      fun hc => Record.change_optional_ne_ok hc.ne_null (MathExpr.Doubled.refused hc)⟩,
    ⟨_, List.mem_of_getElem? (i := 22) rfl, rfl,
      fun hc => Record.change_optional_ne_ok hc.ne_null (Filter.Doubled.refused hc)⟩, by simp⟩

end

end Dql
