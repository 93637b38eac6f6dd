import Dql.Proofs.Query.References
import Dql.Proofs.Render.WellFormed

/-!
# Which fault is reported

A block that passes the check of its references is written exactly if it is well formed,
and else its first fault is reported (`Block.render_outcome`). What is wrong with a block
is a list, and the writer is not asked for this list: it stops somewhere. That it stops at
the first entry, if there is one, is `Reports`, which is kept by steps that are taken one
after the other (`Reports.bind`), and is shown function by function.
-/

namespace Dql

open Phrase

/-! ## The first fault -/

/-- A computation fails with the first of some faults, or succeeds if there are none. -/
def Reports {ε α : Type} (x : Except ε α) (faults : List ε) : Prop :=
  match faults with
  | [] => ∃ a, x = .ok a
  | e :: _ => x = .error e

namespace Reports

variable {ε α β : Type} {x : Except ε α} {es fs : List ε}

theorem ok (a : α) : Reports (.ok a : Except ε α) [] := ⟨a, rfl⟩

theorem error (e : ε) (es : List ε) : Reports (.error e : Except ε α) (e :: es) := rfl

theorem bind {f : α → Except ε β} (hx : Reports x es) (hf : ∀ a, Reports (f a) fs) :
    Reports (x >>= f) (es ++ fs) := by
  cases es with
  | nil =>
    obtain ⟨a, rfl⟩ := hx
    exact hf a
  | cons e es =>
    obtain rfl : x = .error e := hx
    exact error e (es ++ fs)

/-- Steps that cannot fail add no fault. -/
theorem bindOk {f : α → Except ε β} (hx : Reports x es) (hf : ∀ a, Reports (f a) []) :
    Reports (x >>= f) es := by
  simpa using hx.bind hf

theorem map (hx : Reports x es) (f : α → β) : Reports (x.map f) es := by
  cases es with
  | nil =>
    obtain ⟨a, rfl⟩ := hx
    exact ok (f a)
  | cons e es =>
    obtain rfl : x = .error e := hx
    exact error e es

theorem eq_ok_iff (hx : Reports x es) : (∃ a, x = .ok a) ↔ es = [] := by
  cases es with
  | nil => exact iff_of_true hx rfl
  | cons e es =>
    obtain rfl : x = .error e := hx
    exact iff_of_false (by simp) (by simp)

theorem eq_error_iff (hx : Reports x es) (e : ε) : x = .error e ↔ es.head? = some e := by
  cases es with
  | nil =>
    obtain ⟨a, rfl⟩ := hx
    exact iff_of_false (by simp) (by simp)
  | cons e' es =>
    obtain rfl : x = .error e' := hx
    simp

end Reports

/-! ## Filters and expressions -/

theorem Call.reports_leafPhrase (node : String) (c : Call) :
    Reports (c.leafPhrase node) (c.leafFaults node) := by
  unfold leafPhrase leafFaults
  cases harguments : c.arguments with
  | nil =>
    have hnone : Render.argumentTerms? c = none := by rw [Render.argumentTerms?, harguments]
    rw [hnone]
    by_cases hids : c.ids = []
    · by_cases hattr : c.attr = "" <;> by_cases huses : c.uses = [] <;>
        simp [hids, hattr, huses, Reports]
    · simp [hids, Reports]
  | cons first rest =>
    obtain ⟨ts, hsome⟩ : ∃ ts, Render.argumentTerms? c = some ts := by
      rw [Render.argumentTerms?, harguments]
      dsimp only
      split
      · exact ⟨_, rfl⟩
      · exact ⟨_, rfl⟩
    rw [hsome]
    by_cases hattr : c.attr = ""
    · by_cases huses : c.uses = [] <;> simp [hattr, huses, Reports]
    · by_cases hcount : c.isCount = true <;> simp [hattr, hcount, Reports]

namespace Filter

variable {node : String}

mutual

theorem reports_phrase : ∀ f : Filter, Reports (f.phrase node) (f.faults node)
  | ⟨op, operands, some call⟩ => by
    rw [phrase, faults]
    by_cases hop : op.isEmpty = true
    · rw [if_pos hop, if_pos hop]
      exact call.reports_leafPhrase node
    · rw [if_neg hop, if_neg hop]
      exact .error _ _
  | ⟨op, operands, none⟩ => by
    rw [phrase, faults]
    by_cases hop : op.isEmpty = true
    · obtain rfl := String.isEmpty_iff.1 hop
      exact .error _ _
    · rw [if_neg hop]
      by_cases hne : operands.isEmpty = true
      · rw [if_pos hne, if_pos (by simp [hne])]
        exact .error _ _
      · rw [if_neg hne, if_neg (by simp [hop, hne])]
        exact (reports_phrases operands).map _

theorem reports_phrases : ∀ fs : List Filter,
    Reports (phrases node fs) (allFaults node fs)
  | [] => .ok []
  | f :: rest => by
    have hsteps : phrases node (f :: rest)
        = f.phrase node >>= fun text => (phrases node rest).map (text :: ·) := by
      rw [phrases]
      cases f.phrase node <;> rfl
    rw [allFaults, hsteps]
    exact (reports_phrase f).bind fun text => (reports_phrases rest).map (text :: ·)

end

end Filter

namespace MathExpr

variable {node : String}

mutual

theorem reports_toInfix : ∀ e : MathExpr, Reports (e.toInfix node) (e.faults node)
  | ⟨fn, name, constant, values, operands⟩ => by
    rw [toInfix, faults]
    by_cases hfn : fn.isEmpty = true
    · rw [if_pos hfn, if_pos hfn]
      unfold operandText
      cases hconstant : constant.isEmpty with
      | false => exact .ok _
      | true => by_cases hname : name = "" <;> simp [hname, Reports]
    · rw [if_neg hfn, if_neg hfn]
      by_cases hne : operands.isEmpty = true
      · rw [if_pos hne, if_pos hne]
        exact .error _ _
      · rw [if_neg hne, if_neg hne]
        exact (reports_allToInfix operands).map _

theorem reports_allToInfix : ∀ es : List MathExpr,
    Reports (allToInfix node es) (allFaults node es)
  | [] => .ok []
  | e :: rest => by
    have hsteps : allToInfix node (e :: rest)
        = e.toInfix node >>= fun text => (allToInfix node rest).map (text :: ·) := by
      rw [allToInfix]
      cases e.toInfix node <;> rfl
    rw [allFaults, hsteps]
    exact (reports_toInfix e).bind fun text => (reports_allToInfix rest).map (text :: ·)

end

theorem reports_phrase (e : MathExpr) : Reports (e.phrase node) (e.faults node) :=
  (reports_toInfix e).map _

end MathExpr

/-! ## Lines -/

namespace Clause

variable (c : Clause)

theorem reports_functionPhrase (call : Call) :
    Reports (c.functionPhrase call) (c.functionFaults call) := by
  unfold functionPhrase functionFaults
  by_cases hname : call.name.isEmpty = true
  · rw [if_pos hname, if_pos hname]
    exact .error _ _
  · rw [if_neg hname, if_neg hname]
    dsimp only
    split
    · split <;> exact .ok _
    · split
      · split
        · exact .ok _
        · split <;> exact .ok _
      · exact .ok _

theorem reports_passwordPhrase (call : Call) :
    Reports (c.passwordPhrase call) (c.passwordFaults call) := by
  unfold passwordPhrase passwordFaults
  by_cases hattr : call.attr.isEmpty = true
  · rw [if_pos hattr, if_pos hattr]
    exact .error _ _
  · rw [if_neg hattr, if_neg hattr, List.nil_append]
    split
    next password harguments =>
      rw [harguments, if_pos (by rfl)]
      exact .ok _
    next hother =>
      rw [if_neg]
      · exact .error _ _
      · intro hlength
        obtain ⟨password, harguments⟩ := List.length_eq_one_iff.1 hlength
        exact hother password harguments

theorem reports_filterPhrase : Reports c.filterPhrase c.filterFaults := by
  unfold filterPhrase filterFaults
  cases c.filter with
  | none => exact .ok none
  | some f =>
    dsimp only
    split
    · exact .ok none
    · exact (Filter.reports_phrase f).map _

theorem reports_facetFilterPhrase :
    Reports (c.facetFilterPhrase c.label) c.facetFilterFaults := by
  unfold facetFilterPhrase facetFilterFaults
  cases c.facetFilter with
  | none => exact .ok none
  | some f => exact (Filter.reports_phrase f).map _

theorem reports_directivePhrase (withFilter hasChildren : Bool) :
    Reports (c.directivePhrase withFilter hasChildren)
      ((if withFilter then c.filterFaults else []) ++ c.facetFilterFaults) := by
  have hrest : ∀ filter : Option Phrase, Reports (do
      let facetFilter ← c.facetFilterPhrase c.label
      let all := filter.toList ++ facetFilter.toList ++ (c.facetPhrase hasChildren).toList ++
        c.groupPhrase.toList ++ c.flagPhrases
      return joined [] (all.map (mark " " ++ ·))) c.facetFilterFaults := fun filter =>
    c.reports_facetFilterPhrase.bindOk fun _ => .ok _
  cases withFilter with
  | true => exact c.reports_filterPhrase.bind hrest
  | false => exact hrest none

theorem reports_attributeLinePhrase :
    Reports c.attributeLinePhrase
      (if c.attr.isEmpty && c.aliasName.isEmpty then [.unnamedBlock] else []) := by
  unfold attributeLinePhrase
  cases c.attr.isEmpty with
  | true =>
    cases c.aliasName.isEmpty with
    | true => exact .error _ _
    | false => exact .ok _
  | false => exact .ok _

/-- A node that is a count has its filter inside, all others among the directives. -/
theorem reports_bodyPhrase :
    Reports c.bodyPhrase (c.bodyFaults ++ if c.filterIsInBody then c.filterFaults else []) := by
  unfold bodyPhrase bodyFaults filterIsInBody
  cases c.call with
  | some call =>
    show Reports _ ((if _ then _ else _) ++ [])
    rw [List.append_nil]
    refine Reports.map ?_ _
    split
    · exact c.reports_passwordPhrase call
    · exact c.reports_functionPhrase call
  | none =>
    cases c.math with
    | some e =>
      show Reports _ (e.faults c.label ++ [])
      rw [List.append_nil]
      exact (MathExpr.reports_phrase e).map _
    | none =>
      cases c.isCount with
      | true =>
        show Reports _ ((if c.attr.isEmpty && c.aliasName.isEmpty && false then _ else _) ++ _)
        rw [Bool.and_false]
        exact (c.reports_filterPhrase.map _).map _
      | false =>
        show Reports _ ((if c.attr.isEmpty && c.aliasName.isEmpty && true then _ else _) ++ [])
        rw [Bool.and_true, List.append_nil]
        dsimp only
        rw [if_neg Bool.false_ne_true]
        split
        next hval =>
          -- an attribute called `val` is an attribute, so the node has a name
          have hattr : c.attr = "val" := by
            rw [Bool.and_eq_true, decide_eq_true_eq] at hval
            exact hval.1
          rw [hattr]
          exact .ok _
        next => exact c.reports_attributeLinePhrase

theorem reports_childPhrase (depth : Nat) (hasChildren : Bool) :
    Reports (c.childPhrase depth hasChildren) c.childFaults := by
  have hparts : c.childFaults
      = (c.bodyFaults ++ if c.filterIsInBody then c.filterFaults else []) ++
        ((if !c.filterIsInBody then c.filterFaults else []) ++ c.facetFilterFaults) := by
    -- the filter is looked at once, inside the body or behind it
    unfold childFaults
    cases c.filterIsInBody <;> simp
  rw [hparts]
  exact c.reports_bodyPhrase.bind fun _ =>
    (c.reports_directivePhrase _ hasChildren).bindOk fun _ => .ok _

theorem reports_rootPhrase (depth : Nat) (hasChildren : Bool) :
    Reports (c.rootPhrase depth hasChildren) c.rootFaults := by
  unfold rootPhrase rootFaults
  by_cases hname : c.resultName.isEmpty = true
  · rw [if_pos hname, if_pos hname]
    exact .error _ _
  · rw [if_neg hname, if_neg hname, List.nil_append]
    have hdirectives : ∀ function : List Phrase, Reports (do
        let parts := function ++ c.orderPhrases ++ c.argumentPhrases
        let directives ← c.directivePhrase true hasChildren
        return indent depth ++ c.bindingPhrase ++ own c.resultName ++ mark "(" ++ listed parts ++
          mark ")" ++ directives ++ mark " \x7b")
        (c.filterFaults ++ c.facetFilterFaults) := fun _ =>
      (c.reports_directivePhrase true hasChildren).bindOk fun _ => .ok _
    cases c.call with
    | none => exact hdirectives []
    | some call => exact ((c.reports_functionPhrase call).map _).bind hdirectives

end Clause

namespace Query

mutual

/-- **The lines of a node** fail with the first fault there is in the clauses that are
written, one after the other. -/
theorem reports_childPhrases {depth : Nat} : ∀ q : Query,
    Reports (q.childPhrases depth) (q.written.flatMap Clause.childFaults)
  | ⟨clause, fallback, children⟩ => by
    have hline := clause.reports_childPhrase depth (!children.isEmpty)
    have hsteps : childPhrases depth ⟨clause, fallback, children⟩
        = clause.childPhrase depth (!children.isEmpty) >>= fun line =>
          if clause.isInternal || children.isEmpty then .ok [line]
          else (allChildPhrases (depth + 1) children).map fun lines =>
            (line ++ mark " \x7b") :: lines ++ [closingPhrase depth] := by
      rw [childPhrases]
      cases clause.childPhrase depth (!children.isEmpty) <;> rfl
    rw [hsteps, written, List.flatMap_cons]
    refine hline.bind fun line => ?_
    cases clause.isInternal with
    | true => exact .ok [line]
    | false =>
      cases children with
      | nil => exact .ok [line]
      | cons q rest => exact (reports_allChildPhrases (q :: rest)).map _

theorem reports_allChildPhrases {depth : Nat} : ∀ qs : List Query,
    Reports (allChildPhrases depth qs) ((allWritten qs).flatMap Clause.childFaults)
  | [] => .ok []
  | q :: rest => by
    have hsteps : allChildPhrases depth (q :: rest)
        = q.childPhrases depth >>= fun lines => (allChildPhrases depth rest).map (lines ++ ·) := by
      rw [allChildPhrases]
      cases q.childPhrases depth <;> rfl
    rw [hsteps, allWritten, List.flatMap_append]
    exact (reports_childPhrases q).bind fun lines => (reports_allChildPhrases rest).map _

end

theorem reports_rootPhrases (depth : Nat) (q : Query) : Reports (q.rootPhrases depth) q.faults :=
  (q.clause.reports_rootPhrase depth _).bind fun _ =>
    (reports_allChildPhrases q.children).bindOk fun _ => .ok _

theorem reports_allRootPhrases (depth : Nat) (qs : List Query) :
    Reports (allRootPhrases depth qs) (qs.flatMap faults) := by
  induction qs with
  | nil => exact .ok []
  | cons q rest ih =>
    rw [List.flatMap_cons]
    exact (q.reports_rootPhrases depth).bind fun _ => ih.bindOk fun _ => .ok _

end Query

/-! ## Blocks -/

namespace Block

theorem reports_phrases (b : Block) : Reports b.phrases b.faults :=
  (Query.reports_allRootPhrases 1 b.queries).map _

/-- **Writing fails exactly for what is malformed, with the first fault.** A block in which
some reference is not declared fails with such a reference, whatever else is wrong with it.
Any other block has a text exactly if it is well formed, and fails with its first fault
otherwise. -/
theorem render_outcome (b : Block) :
    ((∃ r ∈ Scope.references b.queries, r.name ∉ Scope.declared b.queries) →
      ∃ r ∈ Scope.references b.queries, r.name ∉ Scope.declared b.queries ∧
        b.render = .error (.undefinedVariable r.node r.name)) ∧
    ((∀ r ∈ Scope.references b.queries, r.name ∈ Scope.declared b.queries) →
      ((∃ text, b.render = .ok text) ↔ b.IsWellFormed) ∧
      ∀ e, b.render = .error e ↔ b.faults.head? = some e) := by
  rcases Scope.check_cases b.queries with ⟨hcheck, hall⟩ | ⟨r, hr, hname, hcheck⟩
  · refine ⟨fun ⟨r, hr, hname⟩ => absurd (hall r hr) hname, fun _ => ?_⟩
    have hrender : Reports b.render b.faults := by
      unfold render renderUnder phrase
      rw [hcheck]
      exact (b.reports_phrases.bindOk fun _ => .ok _).map _
    exact ⟨hrender.eq_ok_iff.trans faults_eq_nil_iff, hrender.eq_error_iff⟩
  · refine ⟨fun _ => ⟨r, hr, hname, ?_⟩, fun hall => absurd (hall r hr) hname⟩
    unfold render renderUnder phrase
    rw [hcheck]
    rfl

/-- A root that is marked as internal, above a node that says nothing. -/
def internalRoot : Block where
  queries := [
    { clause := { aliasName := "me", call := some { name := "uid" }, ids := [1],
                  isInternal := true },
      children := [{}] }]

/-- The node below an internal root is written, and its fault reported. -/
theorem internalRoot_hides_nothing :
    (∀ r ∈ Scope.references internalRoot.queries, r.name ∈ Scope.declared internalRoot.queries) ∧
    (∀ q ∈ internalRoot.queries, q.clause.IsWellFormedRoot ∧
      ∀ c ∈ q.written.tail, c.IsWellFormedChild) ∧
    internalRoot.render = .error .unnamedBlock := by
  refine ⟨?_, ?_, rfl⟩
  · have hnone : Scope.references internalRoot.queries = [] := rfl
    rw [hnone]
    exact fun r hr => absurd hr List.not_mem_nil
  · intro q hq
    obtain rfl := List.mem_singleton.1 hq
    refine ⟨(Clause.rootFaults_eq_nil_iff _).1 rfl, ?_⟩
    rw [show Query.written _ = [_] from rfl]
    exact fun c hc => absurd hc List.not_mem_nil

end Block

end Dql
