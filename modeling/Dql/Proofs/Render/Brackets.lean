import Dql.Proofs.Render.Operator

/-!
# The brackets around the text of an expression

The text of an expression is `math` and something in brackets, and the first of these is
closed by the last character: the brackets enclose the whole
(`MathExpr.render_enclosed`). Nothing is asked of the expression but that its own words, the
names of operators and operands and the constants, close the brackets which they open.

Which bracket closes which is said without the scanner that the renderer looks with
(`MathExpr.Matches`): what stands between the two has its brackets in pairs. Such a text is
one that the scanner passes with the depth it had before (`MathExpr.isBalanced_iff`), so the
infix text of an expression has its brackets in pairs because it is balanced, and the scanner
stops at the end exactly if the last character closes the first one (`MathExpr.encloses_iff`).
-/

namespace Dql

namespace MathExpr

/-! ## Brackets in pairs -/

/-- A text behind `depth` open brackets: none of its prefixes closes a bracket that is not
open, and the whole closes all of them. -/
structure Closes (depth : Nat) (cs : List Char) : Prop where
  front : ∀ p, p <+: cs → p.count ')' ≤ p.count '(' + depth
  whole : cs.count ')' = cs.count '(' + depth

/-- The brackets of a text come in pairs: every prefix has at least as many opening ones as
closing ones, and the whole as many of both. -/
def IsPaired (cs : List Char) : Prop := Closes 0 cs

/-- The bracket at the one place of a text is closed by the bracket at the other: what stands
between them has its brackets in pairs. -/
def Matches (cs : List Char) (i j : Nat) : Prop :=
  ∃ before inner after, IsPaired inner ∧ cs = before ++ '(' :: (inner ++ ')' :: after) ∧
    i = before.length ∧ j = before.length + 1 + inner.length

namespace Closes

variable {depth : Nat} {c : Char} {cs : List Char}

theorem nil_iff : Closes depth [] ↔ depth = 0 := by
  constructor
  · intro h
    simpa using h.whole.symm
  · rintro rfl
    refine ⟨fun p hp => ?_, rfl⟩
    rw [List.prefix_nil.1 hp]
    exact Nat.le_refl _

/-- The first character of a text leaves so many brackets open to the others. -/
theorem cons_iff {next : Nat} (hopen : depth + [c].count '(' = next + [c].count ')') :
    Closes depth (c :: cs) ↔ Closes next cs := by
  have hcount : ∀ (m : Char) (p : List Char), (c :: p).count m = [c].count m + p.count m :=
    fun m p => by rw [← List.count_append, List.singleton_append]
  constructor
  · intro h
    refine ⟨fun p hp => ?_, ?_⟩
    · have hfront := h.front (c :: p) (List.cons_prefix_cons.2 ⟨rfl, hp⟩)
      rw [hcount ')' p, hcount '(' p] at hfront
      omega
    · have hwhole := h.whole
      rw [hcount ')' cs, hcount '(' cs] at hwhole
      omega
  · intro h
    refine ⟨fun p hp => ?_, ?_⟩
    · rcases List.prefix_cons_iff.1 hp with rfl | ⟨t, rfl, ht⟩
      · simp
      · have hfront := h.front t ht
        rw [hcount ')' t, hcount '(' t]
        omega
    · have hwhole := h.whole
      rw [hcount ')' cs, hcount '(' cs]
      omega

theorem open_iff : Closes depth ('(' :: cs) ↔ Closes (depth + 1) cs := cons_iff (by simp)

theorem close_iff : Closes (depth + 1) (')' :: cs) ↔ Closes depth cs := cons_iff (by simp)

theorem other_iff (hopen : c ≠ '(') (hclose : c ≠ ')') :
    Closes depth (c :: cs) ↔ Closes depth cs := cons_iff (by simp [hopen, hclose])

theorem not_zero_close : ¬ Closes 0 (')' :: cs) := by
  intro h
  have hfront := h.front [')'] (by simp)
  simp at hfront

end Closes

/-- Of two texts with brackets in pairs, each of them followed by a closing bracket at the same
place, the second is not longer than the first. -/
theorem IsPaired.length_le {inner inner' after after' : List Char} (hinner : IsPaired inner)
    (hinner' : IsPaired inner') (heq : inner ++ ')' :: after = inner' ++ ')' :: after') :
    inner'.length ≤ inner.length := by
  refine Nat.le_of_not_lt fun hlt => ?_
  -- the first text and the bracket behind it would be a prefix of the second
  have hprefix : inner ++ [')'] <+: inner' := by
    have hleft : inner ++ [')'] <+: inner' ++ ')' :: after' := by
      rw [← heq]
      exact ⟨after, by simp⟩
    exact List.prefix_of_prefix_length_le hleft (List.prefix_append _ _) (by simp; omega)
  have hfront := hinner'.front _ hprefix
  have hwhole := hinner.whole
  rw [List.count_append, List.count_append] at hfront
  simp at hfront
  omega

/-- A bracket is closed by one other only. -/
theorem Matches.unique {cs : List Char} {i j k : Nat} (hj : Matches cs i j)
    (hk : Matches cs i k) : j = k := by
  obtain ⟨before, inner, after, hinner, rfl, rfl, rfl⟩ := hj
  obtain ⟨before', inner', after', hinner', hcs, hbefore, rfl⟩ := hk
  obtain ⟨rfl, hrest⟩ := List.append_inj hcs hbefore
  have heq := (List.cons.inj hrest).2
  rw [Nat.le_antisymm (hinner'.length_le hinner heq.symm) (hinner.length_le hinner' heq)]

/-! ## What the scanner sees -/

/-- The scanner comes back to the depth at which it was before the brackets now open, and goes
on from there. -/
theorem Closes.closesAtEnd_append {open_ : Nat} {cs : List Char} (h : Closes open_ cs) :
    ∀ depth rest, closesAtEnd (depth + 1 + open_) (cs ++ rest) = closesAtEnd (depth + 1) rest := by
  intro depth rest
  induction cs generalizing open_ with
  | nil => rw [Closes.nil_iff.1 h]; rfl
  | cons c cs ih =>
    by_cases hopen : c = '('
    · subst hopen
      rw [List.cons_append, closesAtEnd]
      exact ih (Closes.open_iff.1 h)
    · by_cases hclose : c = ')'
      · subst hclose
        cases open_ with
        | zero => exact absurd h Closes.not_zero_close
        | succ n =>
          rw [List.cons_append, closesAtEnd, if_neg (by omega)]
          exact ih (Closes.close_iff.1 h)
      · rw [List.cons_append, closesAtEnd]
        · exact ih ((Closes.other_iff hopen hclose).1 h)
        · exact hopen
        · exact hclose

theorem exists_of_closesAtEnd {depth : Nat} {cs : List Char}
    (h : closesAtEnd (depth + 1) cs = true) :
    ∃ inner, cs = inner ++ [')'] ∧ Closes depth inner := by
  induction cs generalizing depth with
  | nil => simp [closesAtEnd] at h
  | cons c cs ih =>
    by_cases hopen : c = '('
    · subst hopen
      obtain ⟨inner, rfl, hinner⟩ := ih h
      exact ⟨'(' :: inner, rfl, Closes.open_iff.2 hinner⟩
    · by_cases hclose : c = ')'
      · subst hclose
        rw [closesAtEnd] at h
        cases depth with
        | zero =>
          rw [if_pos (by omega), List.isEmpty_iff] at h
          exact ⟨[], by rw [h]; rfl, Closes.nil_iff.2 rfl⟩
        | succ d =>
          rw [if_neg (by omega)] at h
          obtain ⟨inner, rfl, hinner⟩ := ih h
          exact ⟨')' :: inner, rfl, Closes.close_iff.2 hinner⟩
      · rw [closesAtEnd] at h
        · obtain ⟨inner, rfl, hinner⟩ := ih h
          exact ⟨c :: inner, rfl, (Closes.other_iff hopen hclose).2 hinner⟩
        · exact hopen
        · exact hclose

/-- **Where the scanner stops.** Behind one open bracket it says that this one is closed at the
end exactly if what stands before the last character has its brackets in pairs. -/
theorem closesAtEnd_one_iff {cs : List Char} :
    closesAtEnd 1 cs = true ↔ ∃ inner, cs = inner ++ [')'] ∧ IsPaired inner := by
  refine ⟨exists_of_closesAtEnd, ?_⟩
  rintro ⟨inner, rfl, hinner⟩
  exact hinner.closesAtEnd_append 0 [')']

/-- To see that brackets come in pairs, one more is opened in front and closed behind. -/
theorem isPaired_iff {cs : List Char} : IsPaired cs ↔ closesAtEnd 1 (cs ++ [')']) = true := by
  rw [closesAtEnd_one_iff]
  constructor
  · exact fun h => ⟨cs, rfl, h⟩
  · rintro ⟨inner, heq, hinner⟩
    rwa [List.append_cancel_right heq]

instance (cs : List Char) : Decidable (IsPaired cs) := decidable_of_iff _ isPaired_iff.symm

/-- The scanner passes a text with the depth it had before exactly if its brackets come in
pairs. -/
theorem isBalanced_iff {cs : List Char} : IsBalanced cs ↔ IsPaired cs :=
  ⟨fun h => isPaired_iff.2 (h 0 [')']), Closes.closesAtEnd_append⟩

/-- **What the brackets around the whole are.** The scanner says that a text has them exactly
if the text starts with a bracket and this one is closed by the last character. -/
theorem encloses_iff {cs : List Char} :
    encloses cs = true ↔ cs.head? = some '(' ∧ ∀ j, Matches cs 0 j ↔ j = cs.length - 1 := by
  unfold encloses
  rw [Bool.and_eq_true, beq_iff_eq]
  refine and_congr_right fun hhead => ?_
  obtain ⟨rest, rfl⟩ := List.head?_eq_some_iff.1 hhead
  show closesAtEnd 1 rest = true ↔ _
  rw [closesAtEnd_one_iff]
  constructor
  · rintro ⟨inner, rfl, hinner⟩ j
    have hlast : Matches ('(' :: (inner ++ [')'])) 0 ('(' :: (inner ++ [')'])).length.pred :=
      ⟨[], inner, [], hinner, rfl, rfl, by simp; omega⟩
    constructor
    · exact fun hj => hj.unique hlast
    · rintro rfl
      exact hlast
  · intro h
    obtain ⟨before, inner, after, hinner, hcs, hbefore, hlast⟩ := (h _).2 rfl
    obtain rfl := List.eq_nil_of_length_eq_zero hbefore.symm
    obtain rfl := (List.cons.inj hcs).2
    refine ⟨inner, ?_, hinner⟩
    have hafter : after = [] := by
      refine List.eq_nil_of_length_eq_zero ?_
      simp at hlast
      omega
    rw [hafter]

/-! ## The words of an expression -/

/-- Brackets come in pairs in every word of an expression: in the names of its operators and
variables and in the texts of its constants, the ones that are not written among them. -/
inductive HasPairedWords : MathExpr → Prop where
  | intro {e : MathExpr} (hfn : IsPaired e.fn.toList) (hname : IsPaired e.variableName.toList)
      (hconstant : e.constant.isEmpty = false → IsPaired (constantText e.constant.value).toList)
      (hoperands : ∀ o ∈ e.operands, HasPairedWords o) : HasPairedWords e

theorem isPaired_operandText {node name text : String} {constant : Scalar}
    (hname : IsPaired name.toList)
    (hconstant : constant.isEmpty = false → IsPaired (constantText constant.value).toList)
    (h : operandText node name constant = .ok text) : IsPaired text.toList := by
  unfold operandText at h
  split at h
  next hgiven =>
    rw [← Except.ok.inj h]
    exact hconstant (by simpa using hgiven)
  next =>
    split at h
    · rwa [← Except.ok.inj h]
    · exact absurd h (by simp)

/-- The infix text of an expression has its brackets in pairs, if its words have. -/
theorem HasPairedWords.isBalanced {e : MathExpr} (h : e.HasPairedWords) :
    ∀ {node text}, e.toInfix node = .ok text → IsBalanced text.toList := by
  induction h with
  | @intro e hfn hname hconstant hoperands ih =>
    intro node text htext
    by_cases hop : e.fn = ""
    · rw [toInfix_operand hop] at htext
      exact isBalanced_iff.2 (isPaired_operandText hname hconstant htext)
    · obtain ⟨fn, name, constant, values, operands⟩ := e
      obtain ⟨texts, -, htexts, rfl⟩ := (toInfix_operator_eq_ok hop).1 htext
      refine isBalanced_apply (isBalanced_iff.2 hfn) fun t ht => ?_
      obtain ⟨o, ho, hot⟩ := exists_of_mem_allToInfix htexts ht
      exact ih o ho hot

/-- A text with its brackets in pairs has them around the whole, once they are added where
they are missing. -/
theorem IsBalanced.bracket {text : String} (h : IsBalanced text.toList) :
    IsBalanced (bracket text).toList ∧ MathExpr.encloses (MathExpr.bracket text).toList = true := by
  rw [MathExpr.bracket_eq]
  split
  next hencloses => exact ⟨h, hencloses⟩
  next =>
    rw [String.toList_append, String.toList_append, List.append_assoc]
    exact ⟨h.bracketed, h.encloses⟩

/-- **The brackets enclose the whole.** Behind `math` stands a text with its brackets in pairs,
and the first of them is closed by the last character and by no other. That the scanner finds
such brackets means the same of any text. -/
theorem render_enclosed :
    (∀ (e : MathExpr) (node text : String), e.HasPairedWords → e.render node = .ok text →
      ∃ inside : String, text = "math" ++ inside ∧ IsPaired inside.toList ∧
        ∀ j, Matches inside.toList (inside.toList.idxOf '(') j ↔ j = inside.toList.length - 1) ∧
    ∀ s : String, encloses s.toList = true ↔
      s.toList.head? = some '(' ∧ ∀ j, Matches s.toList 0 j ↔ j = s.toList.length - 1 := by
  refine ⟨fun e node text hwords htext => ?_, fun s => encloses_iff⟩
  rw [render_eq] at htext
  obtain ⟨infixed, hinfixed, rfl⟩ := exists_of_map_eq_ok htext
  obtain ⟨hbalanced, hencloses⟩ := (hwords.isBalanced hinfixed).bracket
  obtain ⟨hhead, hmatches⟩ := encloses_iff.1 hencloses
  refine ⟨bracket infixed, rfl, isBalanced_iff.1 hbalanced, ?_⟩
  obtain ⟨rest, hrest⟩ := List.head?_eq_some_iff.1 hhead
  have hfirst : (bracket infixed).toList.idxOf '(' = 0 := by rw [hrest, List.idxOf_cons_self]
  rwa [hfirst]

/-- The negative of a variable whose name starts and ends with a bracket. -/
def negatedProduct : MathExpr where
  fn := "u-"
  operands := [{ variableName := "(a)*(b)" }]

/-- The brackets in front and behind are not a pair in the name, so they do not stand for those
around the whole, with or without the minus sign. -/
theorem render_enclosed_negatedProduct :
    (negatedProduct.HasPairedWords ∧
      negatedProduct.render "d" = .ok ("math" ++ "(-(a)*(b))")) ∧
    (∃ inside : String, "math" ++ "(-(a)*(b))" = "math" ++ inside ∧ IsPaired inside.toList ∧
      ∀ j, Matches inside.toList (inside.toList.idxOf '(') j ↔ j = inside.toList.length - 1) ∧
    ¬ ∀ j, Matches "(a)*(b)".toList 0 j ↔ j = 6 := by
  have hwords : negatedProduct.HasPairedWords := by
    refine .intro (by decide) (by decide) (by decide) (List.forall_mem_singleton.2 ?_)
    exact .intro (by decide) (by decide) (by decide) fun o ho => absurd ho List.not_mem_nil
  have htext : negatedProduct.render "d" = .ok ("math" ++ "(-(a)*(b))") := rfl
  refine ⟨⟨hwords, htext⟩, render_enclosed.1 negatedProduct "d" _ hwords htext, fun hlast => ?_⟩
  exact absurd ((render_enclosed.2 "(a)*(b)").2 ⟨by decide, hlast⟩) (by decide)

end MathExpr

end Dql
