import Dql.Query.Same

/-!
# What it means for trees to be the same

Trees are compared by `same`, which goes through two trees side by side. What it decides
is equality once the signs of zeros are put aside: `unsignZeros` makes every zero in a tree
a plain one, and two trees are the same exactly if this makes them equal
(`Query.allSame_iff`). Zeros occur in the values of mathematical constants and in
fallbacks only; in every other place being the same is being equal.
-/

namespace Dql

/-! ## Numbers and JSON values -/

/-- The number, a zero without its sign. -/
def Double.unsignZero (x : Double) : Double := if x.isZero then zero false else x

theorem Double.same_iff {x y : Double} : x.same y = true ↔ x.unsignZero = y.unsignZero := by
  unfold same unsignZero
  rw [Bool.or_eq_true, Bool.and_eq_true, beq_iff_eq]
  by_cases hx : x.isZero = true
  · rw [if_pos hx]
    by_cases hy : y.isZero = true
    · rw [if_pos hy]
      exact iff_of_true (Or.inl ⟨hx, hy⟩) rfl
    · -- zero is neither a number that is not zero nor what such a number becomes
      rw [if_neg hy]
      refine iff_of_false ?_ ?_
      · rintro (h | rfl)
        · exact hy h.2
        · exact hy hx
      · rintro rfl
        exact hy rfl
  · rw [if_neg hx]
    by_cases hy : y.isZero = true
    · rw [if_pos hy]
      refine iff_of_false ?_ ?_
      · rintro (h | rfl)
        · exact hx h.1
        · exact hx hy
      · rintro rfl
        exact hx rfl
    · rw [if_neg hy]
      exact or_iff_right fun h => hx h.1

/-- The number, a zero without its sign. -/
def Number.unsignZero : Number → Number
  | int n => int n
  | double x => double x.unsignZero

theorem Number.same_iff {m n : Number} : m.same n = true ↔ m.unsignZero = n.unsignZero := by
  cases m with
  | int a =>
    cases n with
    | int b => simp [same, unsignZero]
    | double y => simp [same, unsignZero]
  | double x =>
    cases n with
    | int b => simp [same, unsignZero]
    | double y => simp [same, unsignZero, Double.same_iff]

namespace Json

mutual

/-- The value, every zero in it without its sign. -/
def unsignZeros : Json → Json
  | number n => number n.unsignZero
  | array xs => array (unsignItems xs)
  | object ms => object (unsignMembers ms)
  | other => other

/-- The values, every zero in them without its sign. -/
def unsignItems : List Json → List Json
  | [] => []
  | x :: xs => x.unsignZeros :: unsignItems xs

/-- The members, every zero in them without its sign. -/
def unsignMembers : List (String × Json) → List (String × Json)
  | [] => []
  | (k, x) :: ms => (k, x.unsignZeros) :: unsignMembers ms

end

mutual

theorem same_iff : ∀ x y : Json, x.same y = true ↔ x.unsignZeros = y.unsignZeros
  | null, y => by cases y <;> simp [same, unsignZeros]
  | bool b, y => by cases y <;> simp [same, unsignZeros]
  | string s, y => by cases y <;> simp [same, unsignZeros]
  | number n, y => by cases y <;> simp [same, unsignZeros, Number.same_iff]
  | array xs, y => by
    cases y with
    | array ys => simp only [same, unsignZeros, array.injEq]; exact sameItems_iff xs ys
    | _ => simp [same, unsignZeros]
  | object ms, y => by
    cases y with
    | object ns => simp only [same, unsignZeros, object.injEq]; exact sameMembers_iff ms ns
    | _ => simp [same, unsignZeros]

theorem sameItems_iff : ∀ xs ys : List Json,
    sameItems xs ys = true ↔ unsignItems xs = unsignItems ys
  | [], ys => by cases ys <;> simp [sameItems, unsignItems]
  | x :: xs, [] => by simp [sameItems, unsignItems]
  | x :: xs, y :: ys => by
    rw [sameItems, unsignItems, unsignItems, Bool.and_eq_true, List.cons.injEq,
      same_iff x y, sameItems_iff xs ys]

theorem sameMembers_iff : ∀ ms ns : List (String × Json),
    sameMembers ms ns = true ↔ unsignMembers ms = unsignMembers ns
  | [], ns => by cases ns <;> simp [sameMembers, unsignMembers]
  | m :: ms, [] => by simp [sameMembers, unsignMembers]
  | (k, x) :: ms, (l, y) :: ns => by
    rw [sameMembers, unsignMembers, unsignMembers, Bool.and_eq_true, Bool.and_eq_true,
      List.cons.injEq, Prod.mk.injEq, beq_iff_eq, same_iff x y, sameMembers_iff ms ns]

end

end Json

/-! ## Filters and expressions -/

mutual

/-- There are no numbers in a filter, so the same filter is the filter itself. -/
theorem Filter.same_iff : ∀ f g : Filter, f.same g = true ↔ f = g
  | ⟨op, operands, call⟩, ⟨op', operands', call'⟩ => by
    rw [Filter.same, Bool.and_eq_true, Bool.and_eq_true, beq_iff_eq, beq_iff_eq,
      Filter.allSame_iff operands operands', Filter.mk.injEq, and_assoc]

theorem Filter.allSame_iff : ∀ fs gs : List Filter, Filter.allSame fs gs = true ↔ fs = gs
  | [], gs => by cases gs <;> simp [Filter.allSame]
  | f :: fs, [] => by simp [Filter.allSame]
  | f :: fs, g :: gs => by
    rw [Filter.allSame, Bool.and_eq_true, List.cons.injEq, Filter.same_iff f g,
      Filter.allSame_iff fs gs]

end

/-- The scalar, every zero in its value without its sign. -/
def Scalar.unsignZeros (s : Scalar) : Scalar := { s with value := s.value.unsignZeros }

theorem Scalar.same_iff {s t : Scalar} : s.same t = true ↔ s.unsignZeros = t.unsignZeros := by
  unfold same unsignZeros
  rw [Bool.and_eq_true, beq_iff_eq, Json.same_iff, Scalar.mk.injEq]

theorem Scalar.sameEntries_iff : ∀ es fs : List (Uid × Scalar),
    Scalar.sameEntries es fs = true ↔
      (es.map fun e => (e.1, e.2.unsignZeros)) = fs.map fun e => (e.1, e.2.unsignZeros)
  | [], fs => by cases fs <;> simp [Scalar.sameEntries]
  | e :: es, [] => by simp [Scalar.sameEntries]
  | (k, s) :: es, (l, t) :: fs => by
    rw [Scalar.sameEntries, Bool.and_eq_true, Bool.and_eq_true, List.map_cons, List.map_cons,
      List.cons.injEq, Prod.mk.injEq, beq_iff_eq, Scalar.same_iff, Scalar.sameEntries_iff es fs]

mutual

/-- The expression, every zero in its scalars without its sign. -/
def MathExpr.unsignZeros : MathExpr → MathExpr
  | ⟨fn, name, constant, values, operands⟩ =>
    ⟨fn, name, constant.unsignZeros, values.map fun _ s => s.unsignZeros,
      MathExpr.allUnsignZeros operands⟩

/-- The expressions, every zero in their scalars without its sign. -/
def MathExpr.allUnsignZeros : List MathExpr → List MathExpr
  | [] => []
  | e :: rest => e.unsignZeros :: MathExpr.allUnsignZeros rest

end

theorem Table.map_eq_map_iff {κ ν μ : Type} [Ord κ] {f : κ → ν → μ} {s t : Table κ ν} :
    s.map f = t.map f ↔
      (s.entries.map fun e => (e.1, f e.1 e.2)) = t.entries.map fun e => (e.1, f e.1 e.2) :=
  ⟨congrArg Table.entries, fun h => Table.ext_entries h⟩

mutual

theorem MathExpr.same_iff : ∀ e f : MathExpr, e.same f = true ↔ e.unsignZeros = f.unsignZeros
  | ⟨fn, name, constant, values, operands⟩, ⟨fn', name', constant', values', operands'⟩ => by
    rw [MathExpr.same, MathExpr.unsignZeros, MathExpr.unsignZeros, MathExpr.mk.injEq,
      Table.map_eq_map_iff, ← MathExpr.allSame_iff operands operands', ← Scalar.same_iff,
      ← Scalar.sameEntries_iff]
    simp only [Bool.and_eq_true, beq_iff_eq, and_assoc]

theorem MathExpr.allSame_iff : ∀ es fs : List MathExpr,
    MathExpr.allSame es fs = true ↔ MathExpr.allUnsignZeros es = MathExpr.allUnsignZeros fs
  | [], fs => by cases fs <;> simp [MathExpr.allSame, MathExpr.allUnsignZeros]
  | e :: es, [] => by simp [MathExpr.allSame, MathExpr.allUnsignZeros]
  | e :: es, f :: fs => by
    rw [MathExpr.allSame, MathExpr.allUnsignZeros, MathExpr.allUnsignZeros, Bool.and_eq_true,
      List.cons.injEq, MathExpr.same_iff e f, MathExpr.allSame_iff es fs]

end

/-! ## Nodes -/

/-- What is there or not is the same if it is equal once it is brought into some form. -/
theorem sameOption_iff {α β : Type} {same : α → α → Bool} {g : α → β}
    (h : ∀ x y, same x y = true ↔ g x = g y) (o p : Option α) :
    sameOption same o p = true ↔ o.map g = p.map g := by
  cases o with
  | none => cases p <;> simp [sameOption]
  | some x =>
    cases p with
    | none => simp [sameOption]
    | some y => simp [sameOption, h]

/-- The clause, every zero in its expression without its sign. -/
def Clause.unsignZeros (c : Clause) : Clause :=
  { c with math := c.math.map MathExpr.unsignZeros }

theorem Clause.same_iff {c d : Clause} :
    c.same d = true ↔ c.unsignZeros = d.unsignZeros := by
  unfold Clause.same Clause.unsignZeros
  rw [Clause.mk.injEq]
  simp only [Bool.and_eq_true, beq_iff_eq, and_assoc, sameOption_iff MathExpr.same_iff,
    sameOption_iff (g := id) Filter.same_iff, Option.map_id, id]

mutual

/-- The query, every zero in it without its sign, those in fallbacks included. -/
def Query.unsignZeros : Query → Query
  | ⟨clause, fallback, children⟩ =>
    ⟨clause.unsignZeros, fallback.map Json.unsignZeros, Query.unsignAllZeros children⟩

/-- The queries, every zero in them without its sign. -/
def Query.unsignAllZeros : List Query → List Query
  | [] => []
  | q :: rest => q.unsignZeros :: Query.unsignAllZeros rest

end

mutual

theorem Query.same_iff : ∀ q r : Query, q.same r = true ↔ q.unsignZeros = r.unsignZeros
  | ⟨clause, fallback, children⟩, ⟨clause', fallback', children'⟩ => by
    rw [Query.same, Query.unsignZeros, Query.unsignZeros, Bool.and_eq_true, Bool.and_eq_true,
      Query.mk.injEq, Clause.same_iff, sameOption_iff Json.same_iff,
      Query.allSame_iff children children', and_assoc]

/-- **Queries are the same exactly if they are equal but for the signs of zeros.** -/
theorem Query.allSame_iff : ∀ qs rs : List Query,
    Query.allSame qs rs = true ↔ Query.unsignAllZeros qs = Query.unsignAllZeros rs
  | [], rs => by cases rs <;> simp [Query.allSame, Query.unsignAllZeros]
  | q :: qs, [] => by simp [Query.allSame, Query.unsignAllZeros]
  | q :: qs, r :: rs => by
    rw [Query.allSame, Query.unsignAllZeros, Query.unsignAllZeros, Bool.and_eq_true,
      List.cons.injEq, Query.same_iff q r, Query.allSame_iff qs rs]

end

end Dql
