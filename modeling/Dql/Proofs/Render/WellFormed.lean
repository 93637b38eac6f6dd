import Dql.Proofs.Render.Written

/-!
# Well-formed trees

What it is for a tree to be well formed is said by rules: for filters and expressions by
one rule for each kind of node, for clauses by a structure. Beside it, `faults` lists all
that is wrong with a tree, in the order of the document: what is wrong with a node's own
body, then with its filter, its facet filter, and the nodes below it. The two agree for
each kind of tree (`faults_eq_nil_iff`): a tree is well formed exactly if nothing is wrong
with it.

Neither looks at more than is written. What stands below a leaf of a filter or an operand
of an expression does not matter, nor do the nodes below an internal one
(`Query.written`). On a root the mark of internal nodes has no effect.
-/

namespace Dql

/-! ## Filters -/

namespace Call

/-- Whether the leaf of a filter is about something: an attribute or a variable, or, as long
as it has no arguments, nodes by their identifiers. -/
def HasSubject (c : Call) : Prop :=
  c.attr ≠ "" ∨ c.uses ≠ [] ∨ (c.ids ≠ [] ∧ c.arguments = [])

/-- What is wrong with a call as the leaf of a filter. -/
def leafFaults (node : String) (c : Call) : List RenderError :=
  if c.attr.isEmpty && c.uses.isEmpty && (c.ids.isEmpty || !c.arguments.isEmpty) then
    [.emptyFunction node c.name]
  else []

theorem leafFaults_eq_nil_iff {node : String} {c : Call} :
    c.leafFaults node = [] ↔ c.HasSubject := by
  unfold leafFaults HasSubject
  by_cases hattr : c.attr = "" <;> by_cases huses : c.uses = [] <;>
    by_cases hids : c.ids = [] <;> by_cases harguments : c.arguments = [] <;>
    simp [hattr, huses, hids, harguments]

end Call

/-- A filter whose nodes are each either a leaf that is about something or an operator with
operands. What stands below a leaf is not looked at. -/
inductive Filter.IsWellFormed : Filter → Prop where
  | leaf {operands : List Filter} {call : Call}
      (subject : call.HasSubject) : IsWellFormed ⟨"", operands, some call⟩
  | connective {op : String} {operands : List Filter} (hop : op ≠ "")
      (hne : operands ≠ []) (hoperands : ∀ f ∈ operands, f.IsWellFormed) :
      IsWellFormed ⟨op, operands, none⟩

mutual

/-- What is wrong with a filter, from the top. -/
def Filter.faults (node : String) : Filter → List RenderError
  | ⟨op, operands, call⟩ =>
    match call with
    | some call => if op.isEmpty then call.leafFaults node else [.ambiguousFilter node op]
    | none =>
      if op.isEmpty || operands.isEmpty then [.emptyConnective node op]
      else Filter.allFaults node operands

/-- What is wrong with filters. -/
def Filter.allFaults (node : String) : List Filter → List RenderError
  | [] => []
  | f :: rest => f.faults node ++ Filter.allFaults node rest

end

namespace Filter

variable {node : String}

mutual

theorem faults_eq_nil_iff : ∀ f : Filter, f.faults node = [] ↔ f.IsWellFormed
  | ⟨op, operands, some call⟩ => by
    rw [faults]
    by_cases hop : op = ""
    · subst hop
      refine Call.leafFaults_eq_nil_iff.trans ⟨.leaf, fun h => ?_⟩
      cases h with
      | leaf subject => exact subject
    · refine iff_of_false (by simp [hop]) fun h => ?_
      cases h with
      | leaf => exact hop rfl
  | ⟨op, operands, none⟩ => by
    rw [faults]
    by_cases h : op = "" ∨ operands = []
    · refine iff_of_false (by simp [h]) fun hwf => ?_
      cases hwf with
      | connective hop hne => exact h.elim hop hne
    · obtain ⟨hop, hne⟩ := not_or.1 h
      have hall := allFaults_eq_nil_iff operands
      rw [if_neg (by simp [hop, hne]), hall]
      refine ⟨.connective hop hne, fun hwf => ?_⟩
      cases hwf with
      | connective _ _ hoperands => exact hoperands

theorem allFaults_eq_nil_iff : ∀ fs : List Filter,
    allFaults node fs = [] ↔ ∀ f ∈ fs, f.IsWellFormed
  | [] => by simp [allFaults]
  | f :: rest => by
    rw [allFaults, List.append_eq_nil_iff, faults_eq_nil_iff f, allFaults_eq_nil_iff rest,
      List.forall_mem_cons]

end

end Filter

/-! ## Expressions -/

/-- An expression whose nodes are each either an operand, a constant or a variable, or an
operator with operands. What stands below an operand is not looked at. -/
inductive MathExpr.IsWellFormed : MathExpr → Prop where
  | ofConstant {name : String} {constant : Scalar} {values : Table Uid Scalar}
      {operands : List MathExpr} (hconstant : constant.isEmpty = false) :
      IsWellFormed ⟨"", name, constant, values, operands⟩
  | ofVariable {name : String} {constant : Scalar} {values : Table Uid Scalar}
      {operands : List MathExpr} (hname : name ≠ "") :
      IsWellFormed ⟨"", name, constant, values, operands⟩
  | operator {fn name : String} {constant : Scalar} {values : Table Uid Scalar}
      {operands : List MathExpr} (hfn : fn ≠ "") (hne : operands ≠ [])
      (hoperands : ∀ e ∈ operands, e.IsWellFormed) :
      IsWellFormed ⟨fn, name, constant, values, operands⟩

mutual

/-- What is wrong with an expression, from the top. -/
def MathExpr.faults (node : String) : MathExpr → List RenderError
  | ⟨fn, name, constant, _, operands⟩ =>
    if fn.isEmpty then
      if constant.isEmpty && name.isEmpty then [.emptyMathOperand node] else []
    else if operands.isEmpty then [.emptyMathOperator node fn]
    else MathExpr.allFaults node operands

/-- What is wrong with expressions. -/
def MathExpr.allFaults (node : String) : List MathExpr → List RenderError
  | [] => []
  | e :: rest => e.faults node ++ MathExpr.allFaults node rest

end

namespace MathExpr

variable {node : String}

mutual

theorem faults_eq_nil_iff : ∀ e : MathExpr, e.faults node = [] ↔ e.IsWellFormed
  | ⟨fn, name, constant, values, operands⟩ => by
    rw [faults]
    by_cases hfn : fn = ""
    · subst hfn
      rw [if_pos (by rfl), ite_eq_right_iff]
      constructor
      · intro h
        cases hconstant : constant.isEmpty with
        | false => exact .ofConstant hconstant
        | true =>
          refine .ofVariable ?_
          rintro rfl
          exact absurd (h (by simp [hconstant])) (by simp)
      · intro hwf hempty
        rw [Bool.and_eq_true, String.isEmpty_iff] at hempty
        cases hwf with
        | ofConstant hconstant =>
          rw [hconstant] at hempty
          exact absurd hempty.1 (by decide)
        | ofVariable hname => exact absurd hempty.2 hname
        | operator hfn => exact absurd rfl hfn
    · rw [if_neg (by simpa using hfn)]
      by_cases hne : operands = []
      · refine iff_of_false (by simp [hne]) fun hwf => ?_
        cases hwf with
        | ofConstant => exact hfn rfl
        | ofVariable => exact hfn rfl
        | operator _ hsome => exact hsome hne
      · rw [if_neg (by simpa using hne), allFaults_eq_nil_iff operands]
        refine ⟨.operator hfn hne, fun hwf => ?_⟩
        cases hwf with
        | ofConstant => exact absurd rfl hfn
        | ofVariable => exact absurd rfl hfn
        | operator _ _ hoperands => exact hoperands

theorem allFaults_eq_nil_iff : ∀ es : List MathExpr,
    allFaults node es = [] ↔ ∀ e ∈ es, e.IsWellFormed
  | [] => by simp [allFaults]
  | e :: rest => by
    rw [allFaults, List.append_eq_nil_iff, faults_eq_nil_iff e, allFaults_eq_nil_iff rest,
      List.forall_mem_cons]

end

end MathExpr

/-! ## Clauses -/

namespace Clause

variable (c : Clause)

/-- What is wrong with the function that generates a node. -/
def functionFaults (call : Call) : List RenderError :=
  if call.name.isEmpty then [.emptyFunction c.label ""] else []

/-- What is wrong with the check of a password. -/
def passwordFaults (call : Call) : List RenderError :=
  (if call.attr.isEmpty then [.emptyFunction c.label call.name] else []) ++
    if call.arguments.length = 1 then []
    else [.checkPasswordArity c.label call.arguments.length]

/-- What is wrong with what the line of a node below a root says in front of its
directives, the filter aside. -/
def bodyFaults : List RenderError :=
  match c.call, c.math with
  | some call, _ => if call.name = "checkpwd" then c.passwordFaults call else c.functionFaults call
  | none, some e => e.faults c.label
  | none, none =>
    if c.attr.isEmpty && c.aliasName.isEmpty && !c.isCount then [.unnamedBlock] else []

/-- What is wrong with the filter, if it says anything. -/
def filterFaults : List RenderError :=
  match c.filter with
  | none => []
  | some f => if f.isEmpty then [] else f.faults c.label

/-- What is wrong with the filter on facets. -/
def facetFilterFaults : List RenderError :=
  match c.facetFilter with
  | none => []
  | some f => f.faults c.label

/-- What is wrong with a node below a root, those below it aside. -/
def childFaults : List RenderError := c.bodyFaults ++ (c.filterFaults ++ c.facetFilterFaults)

/-- What is wrong with a root, the nodes below it aside. -/
def rootFaults : List RenderError :=
  (if c.resultName.isEmpty then [.unnamedBlock] else []) ++
    ((match c.call with
      | none => []
      | some call => c.functionFaults call) ++
      (c.filterFaults ++ c.facetFilterFaults))

/-- The filters of a clause are well formed. A filter that says nothing is left out when it
is the filter proper, and is a fault when it is the filter on facets. -/
structure HasWellFormedFilters : Prop where
  filter : ∀ f, c.filter = some f → f.isEmpty = false → f.IsWellFormed
  facetFilter : ∀ f, c.facetFilter = some f → f.IsWellFormed

/-- The clause of a root that can be written. -/
structure IsWellFormedRoot : Prop extends HasWellFormedFilters c where
  named : c.resultName ≠ ""
  function : ∀ call, c.call = some call → call.name ≠ ""

/-- The clause of a node below a root that can be written. -/
structure IsWellFormedChild : Prop extends HasWellFormedFilters c where
  function : ∀ call, c.call = some call → call.name ≠ ""
  password : ∀ call, c.call = some call → call.name = "checkpwd" →
    call.attr ≠ "" ∧ call.arguments.length = 1
  math : c.call = none → ∀ e, c.math = some e → e.IsWellFormed
  named : c.call = none → c.math = none → c.isCount = false → c.attr ≠ "" ∨ c.aliasName ≠ ""

/-! ### No fault -/

theorem functionFaults_eq_nil_iff (call : Call) :
    c.functionFaults call = [] ↔ call.name ≠ "" := by
  simp [functionFaults]

theorem passwordFaults_eq_nil_iff (call : Call) :
    c.passwordFaults call = [] ↔ call.attr ≠ "" ∧ call.arguments.length = 1 := by
  simp [passwordFaults]

theorem filterFaults_eq_nil_iff :
    c.filterFaults ++ c.facetFilterFaults = [] ↔ c.HasWellFormedFilters := by
  have hfilter : c.filterFaults = [] ↔
      ∀ f, c.filter = some f → f.isEmpty = false → f.IsWellFormed := by
    unfold filterFaults
    cases c.filter with
    | none => simp
    | some f => cases hempty : f.isEmpty <;> simp [hempty, Filter.faults_eq_nil_iff]
  have hfacets : c.facetFilterFaults = [] ↔ ∀ f, c.facetFilter = some f → f.IsWellFormed := by
    unfold facetFilterFaults
    cases c.facetFilter with
    | none => simp
    | some f => simp [Filter.faults_eq_nil_iff]
  rw [List.append_eq_nil_iff, hfilter, hfacets]
  exact ⟨fun h => ⟨h.1, h.2⟩, fun h => ⟨h.filter, h.facetFilter⟩⟩

theorem rootFaults_eq_nil_iff : c.rootFaults = [] ↔ c.IsWellFormedRoot := by
  have hfunction : (match c.call with
      | none => []
      | some call => c.functionFaults call) = [] ↔ ∀ call, c.call = some call → call.name ≠ "" := by
    cases c.call with
    | none => simp
    | some call => simp [functionFaults_eq_nil_iff]
  unfold rootFaults
  rw [List.append_eq_nil_iff, List.append_eq_nil_iff, hfunction, filterFaults_eq_nil_iff]
  constructor
  · rintro ⟨hnamed, hfunction, hfilters⟩
    exact ⟨hfilters, by simpa using hnamed, hfunction⟩
  · rintro ⟨hfilters, hnamed, hfunction⟩
    exact ⟨by simpa using hnamed, hfunction, hfilters⟩

theorem childFaults_eq_nil_iff : c.childFaults = [] ↔ c.IsWellFormedChild := by
  unfold childFaults
  rw [List.append_eq_nil_iff, filterFaults_eq_nil_iff]
  constructor
  · rintro ⟨hbody, hfilters⟩
    refine ⟨hfilters, ?_, ?_, ?_, ?_⟩
    · intro call hcall hname
      simp [bodyFaults, hcall, functionFaults, hname] at hbody
    · intro call hcall hname
      simp only [bodyFaults, hcall, hname, if_true] at hbody
      exact (c.passwordFaults_eq_nil_iff call).1 hbody
    · intro hcall e he
      simp only [bodyFaults, hcall, he] at hbody
      exact (MathExpr.faults_eq_nil_iff e).1 hbody
    · intro hcall hmath hcount
      by_cases hattr : c.attr = "" <;> simp_all [bodyFaults]
  · intro h
    refine ⟨?_, h.toHasWellFormedFilters⟩
    unfold bodyFaults
    cases hcall : c.call with
    | some call =>
      dsimp only
      split
      next hname => exact (c.passwordFaults_eq_nil_iff call).2 (h.password call hcall hname)
      next => exact (c.functionFaults_eq_nil_iff call).2 (h.function call hcall)
    | none =>
      cases hmath : c.math with
      | some e => exact (MathExpr.faults_eq_nil_iff e).2 (h.math hcall e hmath)
      | none =>
        cases hcount : c.isCount with
        | true => simp
        | false => rcases h.named hcall hmath hcount with hne | hne <;> simp [hne]

end Clause

/-! ## Nodes -/

mutual

/-- The clauses of a node below a root and of the nodes below it, as far as they are written:
an internal node hides what is below it. -/
def Query.written : Query → List Clause
  | ⟨clause, _, children⟩ =>
    clause :: if clause.isInternal then [] else Query.allWritten children

/-- The clauses of nodes below a root that are written. -/
def Query.allWritten : List Query → List Clause
  | [] => []
  | q :: rest => q.written ++ Query.allWritten rest

end

/-- What is wrong with a root and the nodes below it that are written. -/
def Query.faults (q : Query) : List RenderError :=
  q.clause.rootFaults ++ (Query.allWritten q.children).flatMap Clause.childFaults

namespace Block

/-- What is wrong with a block beside its references, in the order of the document. -/
def faults (b : Block) : List RenderError := b.queries.flatMap Query.faults

/-- The roots of a block are well formed, and so are the nodes below them that are written.
What is right below a root is written, also if the root is marked as internal. -/
def IsWellFormed (b : Block) : Prop :=
  ∀ q ∈ b.queries, q.clause.IsWellFormedRoot ∧
    ∀ c ∈ Query.allWritten q.children, c.IsWellFormedChild

variable {b : Block}

theorem faults_eq_nil_iff : b.faults = [] ↔ b.IsWellFormed := by
  unfold faults IsWellFormed Query.faults
  simp only [List.flatMap_eq_nil_iff, List.append_eq_nil_iff, Clause.rootFaults_eq_nil_iff,
    Clause.childFaults_eq_nil_iff]

end Block

end Dql
