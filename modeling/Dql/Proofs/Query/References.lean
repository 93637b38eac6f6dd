import Dql.Query.Scope

/-!
# The check of references is exact

A block declares names and uses names, each at any node and in any part of it. The check
gathers both in two walks through the tree and compares the lists. What these walks have to
find is said without them: a name is used by a clause (`Clause.UsesName`), or declared by one
(`Clause.Declares`), and the clauses of a block are those of its nodes at any depth
(`Query.allClauses`, in the order of the document).

Both walks are the list of clauses with each clause replaced by its own names
(`references_eq`, `declared_eq`). All else rests on that: the check passes exactly if what is
used is declared, the order of the nodes does not matter (`Query.Reordered`), and what is
refused is the first use of an undeclared name in the order of the document
(`Scope.refused_at_first_undeclared`).
-/

namespace Dql

/-! ## The clauses of a block -/

namespace Query

mutual

/-- The clauses of a query, at any depth. -/
def clauses : Query → List Clause
  | ⟨clause, _, children⟩ => clause :: allClauses children

/-- The clauses of queries, at any depth. -/
def allClauses : List Query → List Clause
  | [] => []
  | q :: rest => clauses q ++ allClauses rest

end

theorem allClauses_eq_flatMap (qs : List Query) : allClauses qs = qs.flatMap clauses := by
  induction qs with
  | nil => rfl
  | cons q rest ih => rw [allClauses, ih, List.flatMap_cons]

/-- The same queries in another order: the roots in another order, or the nodes below one and
the same node, at any depth, and so one step after the other. -/
inductive Reordered : List Query → List Query → Prop where
  | roots {qs rs : List Query} (h : qs.Perm rs) : Reordered qs rs
  | children {clause : Clause} {fallback : Option Json}
      {children children' : List Query} (before after : List Query)
      (h : Reordered children children') :
      Reordered (before ++ ⟨clause, fallback, children⟩ :: after)
        (before ++ ⟨clause, fallback, children'⟩ :: after)
  | trans {qs rs ts : List Query} (h : Reordered qs rs) (h' : Reordered rs ts) : Reordered qs ts

/-- Queries in another order have the same clauses. -/
theorem Reordered.perm {qs rs : List Query} (h : Reordered qs rs) :
    (allClauses qs).Perm (allClauses rs) := by
  induction h with
  | roots h =>
    rw [allClauses_eq_flatMap, allClauses_eq_flatMap]
    exact h.flatMap_right _
  | @children clause _ _ _ before after _ ih =>
    simp only [allClauses_eq_flatMap (before ++ _), List.flatMap_append, List.flatMap_cons,
      clauses]
    exact (List.Perm.append_right _ (ih.cons clause)).append_left _
  | trans _ _ h h' => exact h.trans h'

end Query

/-! ## Names that are used -/

variable {n : String}

/-- A call uses a name: as one of its variables, or as an argument that is the value of a
variable. -/
def Call.UsesName (c : Call) (n : String) : Prop :=
  (∃ u ∈ c.uses, u.name = n) ∨ ∃ a ∈ c.arguments, a.isValueVariable = true ∧ a.value = n

/-- A filter uses a name: its own call does, or one of its operands. -/
inductive Filter.UsesName : Filter → String → Prop where
  | call {f : Filter} {c : Call} {n : String} (hcall : f.call = some c) (h : c.UsesName n) :
      UsesName f n
  | operand {f g : Filter} {n : String} (hg : g ∈ f.operands) (h : UsesName g n) : UsesName f n

/-- An expression uses a name: it is an operand with this variable, or one of the expressions
below it uses the name. -/
inductive MathExpr.UsesName : MathExpr → String → Prop where
  | own {e : MathExpr} (hoperand : e.isOperand = true) (hne : e.variableName ≠ "") :
      UsesName e e.variableName
  | operand {e d : MathExpr} {n : String} (hd : d ∈ e.operands) (h : UsesName d n) : UsesName e n

/-- A clause uses a name: as one of its variables, or in its call, its filter, its filter on
facets, or its expression. -/
inductive Clause.UsesName (c : Clause) (n : String) : Prop where
  | use {u : VariableUse} (hu : u ∈ c.uses) (hname : u.name = n)
  | call {call : Call} (hcall : c.call = some call) (h : call.UsesName n)
  | filter {f : Filter} (hf : c.filter = some f) (h : f.UsesName n)
  | facetFilter {f : Filter} (hf : c.facetFilter = some f) (h : f.UsesName n)
  | math {e : MathExpr} (he : c.math = some e) (h : e.UsesName n)

/-- A clause declares a name: its results are bound to it, or one of its facets. -/
def Clause.Declares (c : Clause) (n : String) : Prop :=
  (c.variableName = n ∧ n ≠ "") ∨ ∃ key, c.facetVariables.find? key = some n

namespace Scope

/-! ### The walks find what is used -/

theorem mem_namesInCall_iff {c : Call} : n ∈ namesInCall c ↔ c.UsesName n := by
  unfold namesInCall Call.UsesName
  simp only [List.mem_append, List.mem_map, List.mem_filter, and_assoc]

mutual

theorem mem_namesInFilter_iff : ∀ f : Filter, n ∈ namesInFilter f ↔ f.UsesName n
  | ⟨op, operands, call⟩ => by
    rw [namesInFilter, List.mem_append, mem_namesInFilters_iff operands]
    constructor
    · rintro (h | ⟨g, hg, h⟩)
      · cases call with
        | none => exact absurd h List.not_mem_nil
        | some c => exact .call rfl (mem_namesInCall_iff.1 h)
      · exact .operand hg h
    · intro h
      cases h with
      | call hcall h =>
        obtain rfl : call = some _ := hcall
        exact Or.inl (mem_namesInCall_iff.2 h)
      | operand hg h => exact Or.inr ⟨_, hg, h⟩

theorem mem_namesInFilters_iff :
    ∀ fs : List Filter, n ∈ namesInFilters fs ↔ ∃ f ∈ fs, f.UsesName n
  | [] => by simp [namesInFilters]
  | f :: rest => by
    rw [namesInFilters, List.mem_append, mem_namesInFilter_iff f, mem_namesInFilters_iff rest]
    simp only [List.mem_cons, exists_eq_or_imp]

end

mutual

theorem mem_namesInMath_iff : ∀ e : MathExpr, n ∈ namesInMath e ↔ e.UsesName n
  | ⟨fn, name, constant, values, operands⟩ => by
    rw [namesInMath, List.mem_append, mem_namesInMaths_iff operands]
    constructor
    · rintro (h | ⟨d, hd, h⟩)
      · split at h
        next hown =>
          rw [Bool.and_eq_true] at hown
          obtain rfl := List.mem_singleton.1 h
          exact .own (e := ⟨fn, n, constant, values, operands⟩) hown.1 (by simpa using hown.2)
        next => exact absurd h List.not_mem_nil
      · exact .operand hd h
    · intro h
      cases h with
      | own hoperand hne =>
        have hfn : fn.isEmpty = true := hoperand
        have hname : name ≠ "" := hne
        exact Or.inl (by simp [hfn, hname])
      | operand hd h => exact Or.inr ⟨_, hd, h⟩

theorem mem_namesInMaths_iff :
    ∀ es : List MathExpr, n ∈ namesInMaths es ↔ ∃ e ∈ es, e.UsesName n
  | [] => by simp [namesInMaths]
  | e :: rest => by
    rw [namesInMaths, List.mem_append, mem_namesInMath_iff e, mem_namesInMaths_iff rest]
    simp only [List.mem_cons, exists_eq_or_imp]

end

/-- What a part of a clause uses, if the part is there. -/
theorem mem_getD_map_iff {α : Type} {part : Option α} {names : α → List String} :
    n ∈ (part.map names).getD [] ↔ ∃ a, part = some a ∧ n ∈ names a := by
  cases part with
  | none => simp
  | some a => simp

theorem mem_namesInClause_iff {c : Clause} : n ∈ namesInClause c ↔ c.UsesName n := by
  unfold namesInClause
  simp only [List.mem_append, mem_getD_map_iff, List.mem_map, or_assoc]
  constructor
  · rintro (⟨u, hu, hname⟩ | ⟨call, hcall, h⟩ | ⟨f, hf, h⟩ | ⟨f, hf, h⟩ | ⟨e, he, h⟩)
    · exact .use hu hname
    · exact .call hcall (mem_namesInCall_iff.1 h)
    · exact .filter hf ((mem_namesInFilter_iff f).1 h)
    · exact .facetFilter hf ((mem_namesInFilter_iff f).1 h)
    · exact .math he ((mem_namesInMath_iff e).1 h)
  · intro h
    cases h with
    | use hu hname => exact .inl ⟨_, hu, hname⟩
    | call hcall h => exact .inr (.inl ⟨_, hcall, mem_namesInCall_iff.2 h⟩)
    | filter hf h => exact .inr (.inr (.inl ⟨_, hf, (mem_namesInFilter_iff _).2 h⟩))
    | facetFilter hf h => exact .inr (.inr (.inr (.inl ⟨_, hf, (mem_namesInFilter_iff _).2 h⟩)))
    | math he h => exact .inr (.inr (.inr (.inr ⟨_, he, (mem_namesInMath_iff _).2 h⟩)))

theorem mem_ofClause_iff {c : Clause} : n ∈ ofClause c ↔ c.Declares n := by
  unfold ofClause Clause.Declares
  rw [List.mem_append]
  refine or_congr ⟨fun h => ?_, ?_⟩ ⟨fun h => ?_, ?_⟩
  · split at h
    next => exact absurd h List.not_mem_nil
    next hne =>
      obtain rfl := List.mem_singleton.1 h
      exact ⟨rfl, by simpa using hne⟩
  · rintro ⟨rfl, hne⟩
    rw [if_neg (by simpa using hne)]
    exact List.mem_singleton_self _
  · obtain ⟨e, he, rfl⟩ := List.mem_map.1 h
    exact ⟨e.1, Table.find?_of_mem he⟩
  · rintro ⟨key, hkey⟩
    exact List.mem_map.2 ⟨(key, n), SortedEntries.mem_of_find? hkey, rfl⟩

/-! ### The walks go through the clauses -/

mutual

theorem referencesOf_eq : ∀ q : Query, referencesOf q
    = q.clauses.flatMap fun c => (namesInClause c).map (⟨c.label, ·⟩)
  | ⟨clause, _, children⟩ => by
    rw [referencesOf, Query.clauses, List.flatMap_cons, references_eq children]

theorem references_eq : ∀ qs : List Query, references qs
    = (Query.allClauses qs).flatMap fun c => (namesInClause c).map (⟨c.label, ·⟩)
  | [] => rfl
  | q :: rest => by
    rw [references, Query.allClauses, List.flatMap_append, referencesOf_eq q, references_eq rest]

end

mutual

theorem ofQuery_eq : ∀ q : Query, ofQuery q = q.clauses.flatMap ofClause
  | ⟨clause, _, children⟩ => by
    rw [ofQuery, Query.clauses, List.flatMap_cons, declared_eq children]

theorem declared_eq : ∀ qs : List Query, declared qs = (Query.allClauses qs).flatMap ofClause
  | [] => rfl
  | q :: rest => by
    rw [declared, Query.allClauses, List.flatMap_append, ofQuery_eq q, declared_eq rest]

end

/-! ## The check -/

/-- Some node of the queries uses a name. -/
def IsUsed (qs : List Query) (n : String) : Prop := ∃ c ∈ Query.allClauses qs, c.UsesName n

/-- Some node of the queries declares a name. -/
def IsDeclared (qs : List Query) (n : String) : Prop := ∃ c ∈ Query.allClauses qs, c.Declares n

theorem mem_declared_iff {qs : List Query} : n ∈ declared qs ↔ IsDeclared qs n := by
  rw [declared_eq, List.mem_flatMap]
  exact exists_congr fun c => and_congr_right fun _ => mem_ofClause_iff

theorem exists_reference_iff {qs : List Query} :
    (∃ r ∈ references qs, r.name = n) ↔ IsUsed qs n := by
  rw [references_eq]
  constructor
  · rintro ⟨r, hr, rfl⟩
    obtain ⟨c, hc, hr⟩ := List.mem_flatMap.1 hr
    obtain ⟨name, hname, rfl⟩ := List.mem_map.1 hr
    exact ⟨c, hc, mem_namesInClause_iff.1 hname⟩
  · rintro ⟨c, hc, hn⟩
    refine ⟨⟨c.label, n⟩, List.mem_flatMap.2 ⟨c, hc, ?_⟩, rfl⟩
    exact List.mem_map_of_mem (mem_namesInClause_iff.2 hn)

/-- The first use of a name that is not declared, in the order of the document: the clauses in
front of `c` use declared names only, and so does `c` in front of `name`. -/
def FirstUndeclared (qs : List Query) (c : Clause) (name : String) : Prop :=
  (∃ before after, Query.allClauses qs = before ++ c :: after ∧
    ∀ d ∈ before, ∀ n, d.UsesName n → IsDeclared qs n) ∧
  (∃ front back, namesInClause c = front ++ name :: back ∧ ∀ n ∈ front, IsDeclared qs n) ∧
  ¬ IsDeclared qs name

/-- The check of references fails with one that is not declared, if there is any. -/
theorem check_cases (qs : List Query) :
    (check qs = .ok () ∧ ∀ r ∈ references qs, r.name ∈ declared qs) ∨
      ∃ r ∈ references qs, r.name ∉ declared qs ∧
        check qs = .error (.undefinedVariable r.node r.name) := by
  unfold check checkIn
  cases hfind : (references qs).find? fun r => !(declared qs).contains r.name with
  | none =>
    refine Or.inl ⟨rfl, fun r hr => ?_⟩
    simpa using List.find?_eq_none.1 hfind r hr
  | some r =>
    have hr := List.find?_some hfind
    exact Or.inr ⟨r, List.mem_of_find?_eq_some hfind, by simpa using hr, rfl⟩

theorem check_eq_ok_iff {qs : List Query} :
    check qs = .ok () ↔ ∀ n, IsUsed qs n → IsDeclared qs n := by
  rcases check_cases qs with ⟨hok, hall⟩ | ⟨r, hr, hname, herror⟩
  · refine iff_of_true hok fun n hn => ?_
    obtain ⟨r, hr, rfl⟩ := exists_reference_iff.2 hn
    exact mem_declared_iff.1 (hall r hr)
  · refine iff_of_false (by rw [herror]; simp) fun h => hname ?_
    exact mem_declared_iff.2 (h r.name (exists_reference_iff.1 ⟨r, hr, rfl⟩))

/-- The first name outside a scope in a list of names. -/
theorem find?_references_eq_some_iff {scope : List String} {label : String} {names : List String}
    {r : Reference} :
    (names.map (Reference.mk label)).find? (fun r => !scope.contains r.name) = some r ↔
      ∃ name front back, r = ⟨label, name⟩ ∧ names = front ++ name :: back ∧
        (∀ n ∈ front, n ∈ scope) ∧ name ∉ scope := by
  rw [List.find?_map, Option.map_eq_some_iff]
  constructor
  · rintro ⟨name, hfind, rfl⟩
    obtain ⟨hname, front, back, hsplit, hfront⟩ := List.find?_eq_some_iff_append.1 hfind
    exact ⟨name, front, back, rfl, hsplit, by simpa using hfront, by simpa using hname⟩
  · rintro ⟨name, front, back, rfl, hsplit, hfront, hname⟩
    have hfind : names.find? (fun n => !scope.contains n) = some name :=
      List.find?_eq_some_iff_append.2
        ⟨by simpa using hname, front, back, hsplit, by simpa using hfront⟩
    exact ⟨name, hfind, rfl⟩

theorem check_eq_error_iff {qs : List Query} {e : RenderError} :
    check qs = .error e ↔ ∃ c name, FirstUndeclared qs c name ∧
      e = .undefinedVariable c.label name := by
  have hcheck : check qs = .error e ↔
      ∃ r, (references qs).find? (fun r => !(declared qs).contains r.name) = some r ∧
        e = .undefinedVariable r.node r.name := by
    unfold check checkIn
    cases (references qs).find? fun r => !(declared qs).contains r.name with
    | none => simp
    | some r => simp [eq_comm]
  -- clauses in front of the one that is at fault have no such reference
  have hnone : ∀ d : Clause,
      ((namesInClause d).map (Reference.mk d.label)).find?
          (fun r => !(declared qs).contains r.name) = none ↔
        ∀ n, d.UsesName n → IsDeclared qs n := by
    intro d
    simp only [List.find?_eq_none, List.forall_mem_map, Bool.not_eq_true', Bool.not_eq_false,
      List.contains_iff_mem, mem_declared_iff, mem_namesInClause_iff]
  rw [hcheck, references_eq, List.find?_flatMap]
  simp only [List.findSome?_eq_some_iff, find?_references_eq_some_iff, hnone]
  constructor
  · rintro ⟨r, ⟨before, c, after, hclauses, hown, hbefore⟩, rfl⟩
    obtain ⟨name, front, back, rfl, hnames, hfront, hname⟩ := hown
    exact ⟨c, name, ⟨⟨before, after, hclauses, hbefore⟩,
      ⟨front, back, hnames, fun n hn => mem_declared_iff.1 (hfront n hn)⟩,
      fun h => hname (mem_declared_iff.2 h)⟩, rfl⟩
  · rintro ⟨c, name, ⟨⟨before, after, hclauses, hbefore⟩, hown, hname⟩, rfl⟩
    obtain ⟨front, back, hnames, hfront⟩ := hown
    refine ⟨⟨c.label, name⟩, ⟨before, c, after, hclauses, ?_, hbefore⟩, rfl⟩
    exact ⟨name, front, back, rfl, hnames, fun n hn => mem_declared_iff.2 (hfront n hn),
      fun h => hname (mem_declared_iff.1 h)⟩

/-- **The check is exact.** Queries pass exactly if each name that one of their nodes uses is
declared by one of their nodes, and so whatever the order of the roots and of the nodes below
each node. If they do not pass, then for the first use of an undeclared name in the order of the
document, reported with the label of its node. -/
theorem refused_at_first_undeclared (qs : List Query) :
    (check qs = .ok () ↔ ∀ n, IsUsed qs n → IsDeclared qs n) ∧
      (∀ rs, Query.Reordered qs rs → (check qs = .ok () ↔ check rs = .ok ())) ∧
      ∀ e, check qs = .error e ↔ ∃ c name, FirstUndeclared qs c name ∧
        e = .undefinedVariable c.label name := by
  refine ⟨check_eq_ok_iff, fun rs h => ?_, fun e => check_eq_error_iff⟩
  have hmem : ∀ c, c ∈ Query.allClauses qs ↔ c ∈ Query.allClauses rs := fun _ => h.perm.mem_iff
  rw [check_eq_ok_iff, check_eq_ok_iff]
  unfold IsUsed IsDeclared
  simp only [hmem]

end Scope

end Dql
