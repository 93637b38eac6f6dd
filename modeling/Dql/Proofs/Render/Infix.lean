import Dql.Proofs.Outcome
import Dql.Proofs.Render.Written

/-!
# The infix text of an expression and its brackets

The text of an expression is its infix text in brackets behind the word `math`. The infix text
of an operator is put together from those of its operands (`MathExpr.toInfix_operator_eq_ok`),
and that of an operand does not depend on what stands below it.

The brackets around the whole are left away if the infix text has them already. So two infix
texts have the same form in brackets exactly if they are the same, or if one of them is the
other in brackets which are not seen as brackets around the whole (`MathExpr.bracket_eq_iff`).
A text in which each bracket is closed (`MathExpr.IsBalanced`) has its brackets seen.
-/

namespace Dql

namespace MathExpr

/-! ## Infix texts -/

/-- The style of an expression's operator; none for an operand. -/
def style (e : MathExpr) : Option Style := if e.fn = "" then none else some (styleOf e.fn)

theorem style_of_ne {e : MathExpr} (h : e.fn ≠ "") : e.style = some (styleOf e.fn) := if_neg h

theorem style_eq_none_iff {e : MathExpr} : e.style = none ↔ e.fn = "" := by
  unfold style
  split
  next h => simp [h]
  next h => simp [h]

section Texts

variable {node fn text name : String} {constant : Scalar} {values : Table Uid Scalar}
  {operands : List MathExpr}

theorem toInfix_operand {e : MathExpr} (h : e.fn = "") (node : String) :
    e.toInfix node = operandText node e.variableName e.constant := by
  obtain ⟨fn, name, constant, values, operands⟩ := e
  obtain rfl : fn = "" := h
  rw [toInfix]
  rfl

theorem toInfix_operator (hfn : fn ≠ "") (hne : operands ≠ []) :
    toInfix node ⟨fn, name, constant, values, operands⟩
      = (allToInfix node operands).map (apply fn) := by
  rw [toInfix, if_neg (by simpa using hfn), if_neg (by simpa using hne)]

/-- An operator has a text exactly if it has operands and each of them has one. -/
theorem toInfix_operator_eq_ok (hfn : fn ≠ "") :
    toInfix node ⟨fn, name, constant, values, operands⟩ = .ok text ↔
      ∃ texts, operands ≠ [] ∧ allToInfix node operands = .ok texts ∧ apply fn texts = text := by
  by_cases hne : operands = []
  · rw [toInfix, if_neg (by simpa using hfn), if_pos (by simpa using hne)]
    exact iff_of_false (by simp) (fun ⟨_, h, _⟩ => h hne)
  · rw [toInfix_operator hfn hne]
    constructor
    · intro h
      obtain ⟨texts, htexts, happly⟩ := exists_of_map_eq_ok h
      exact ⟨texts, hne, htexts, happly⟩
    · rintro ⟨texts, -, htexts, rfl⟩
      rw [htexts]
      rfl

/-- Expressions in a row have texts exactly if the first one and the others have. -/
theorem allToInfix_cons_eq_ok {e : MathExpr} {rest : List MathExpr} {texts : List String} :
    allToInfix node (e :: rest) = .ok texts ↔
      ∃ first more, e.toInfix node = .ok first ∧ allToInfix node rest = .ok more ∧
        texts = first :: more := by
  rw [allToInfix]
  constructor
  · intro h
    cases he : e.toInfix node with
    | error err => rw [he] at h; simp at h
    | ok first =>
      rw [he] at h
      obtain ⟨more, hmore, htexts⟩ := exists_of_map_eq_ok h
      exact ⟨first, more, rfl, hmore, htexts.symm⟩
  · rintro ⟨first, more, hfirst, hmore, rfl⟩
    rw [hfirst, hmore]
    rfl

theorem allToInfix_append_eq_ok {es rest : List MathExpr} {texts : List String} :
    allToInfix node (es ++ rest) = .ok texts ↔
      ∃ first more, allToInfix node es = .ok first ∧ allToInfix node rest = .ok more ∧
        texts = first ++ more := by
  induction es generalizing texts with
  | nil =>
    constructor
    · exact fun h => ⟨[], texts, rfl, h, rfl⟩
    · rintro ⟨first, more, hfirst, hmore, rfl⟩
      obtain rfl : [] = first := Except.ok.inj hfirst
      exact hmore
  | cons e es ih =>
    rw [List.cons_append, allToInfix_cons_eq_ok]
    constructor
    · rintro ⟨s, texts', hs, htexts, rfl⟩
      obtain ⟨first, more, hfirst, hmore, rfl⟩ := ih.1 htexts
      exact ⟨s :: first, more, allToInfix_cons_eq_ok.2 ⟨s, first, hs, hfirst, rfl⟩, hmore, rfl⟩
    · rintro ⟨first, more, hfirst, hmore, rfl⟩
      obtain ⟨s, tail, hs, htail, rfl⟩ := allToInfix_cons_eq_ok.1 hfirst
      exact ⟨s, tail ++ more, hs, ih.2 ⟨tail, more, htail, hmore, rfl⟩, rfl⟩

theorem length_of_allToInfix {texts : List String} (h : allToInfix node operands = .ok texts) :
    texts.length = operands.length := by
  induction operands generalizing texts with
  | nil =>
    rw [allToInfix] at h
    rw [← Except.ok.inj h]
    rfl
  | cons e rest ih =>
    obtain ⟨first, more, -, hmore, rfl⟩ := allToInfix_cons_eq_ok.1 h
    rw [List.length_cons, List.length_cons, ih hmore]

theorem ne_nil_of_allToInfix {texts : List String} (h : allToInfix node operands = .ok texts)
    (hne : operands ≠ []) : texts ≠ [] := by
  rintro rfl
  exact hne (List.eq_nil_of_length_eq_zero (length_of_allToInfix h).symm)

end Texts

/-! ## Brackets around the whole -/

/-- `s` is `t` in brackets, and has them around the whole where `t` has not: the two are the
same once such brackets are added where they are missing. -/
def IsBracketed (s t : String) : Prop :=
  s = "(" ++ t ++ ")" ∧ encloses s.toList = true ∧ encloses t.toList = false

/-- **When brackets make two texts the same.** -/
theorem bracket_eq_iff (s t : String) :
    bracket s = bracket t ↔ s = t ∨ IsBracketed s t ∨ IsBracketed t s := by
  unfold IsBracketed
  rw [bracket_eq, bracket_eq]
  cases hs : encloses s.toList with
  | true =>
    cases ht : encloses t.toList with
    | true => simp
    | false =>
      have hne : s ≠ t := by
        rintro rfl
        rw [hs] at ht
        exact absurd ht (by decide)
      simp [hne]
  | false =>
    cases ht : encloses t.toList with
    | true =>
      have hne : s ≠ t := by
        rintro rfl
        rw [hs] at ht
        exact absurd ht (by decide)
      simp [hne, eq_comm]
    | false => simp [String.append_left_inj, String.append_right_inj]

/-! ## Balanced texts -/

/-- Each bracket of a text is closed in it: behind it the depth is the same as before. -/
def IsBalanced (cs : List Char) : Prop :=
  ∀ depth rest, closesAtEnd (depth + 1) (cs ++ rest) = closesAtEnd (depth + 1) rest

/-- A text without brackets. -/
def HasNoBracket (s : String) : Prop := '(' ∉ s.toList ∧ ')' ∉ s.toList

instance (s : String) : Decidable (HasNoBracket s) :=
  inferInstanceAs (Decidable ('(' ∉ s.toList ∧ ')' ∉ s.toList))

namespace IsBalanced

variable {cs ds : List Char}

theorem nil : IsBalanced [] := fun _ _ => rfl

theorem append (hcs : IsBalanced cs) (hds : IsBalanced ds) : IsBalanced (cs ++ ds) := by
  intro depth rest
  rw [List.append_assoc, hcs, hds]

theorem cons {c : Char} (hopen : c ≠ '(') (hclose : c ≠ ')') (hcs : IsBalanced cs) :
    IsBalanced (c :: cs) := by
  intro depth rest
  rw [List.cons_append, closesAtEnd, hcs]
  · exact hopen
  · exact hclose

theorem of_not_mem (hopen : '(' ∉ cs) (hclose : ')' ∉ cs) : IsBalanced cs := by
  induction cs with
  | nil => exact nil
  | cons c cs ih =>
    rw [List.mem_cons, not_or] at hopen hclose
    exact cons (Ne.symm hopen.1) (Ne.symm hclose.1) (ih hopen.2 hclose.2)

theorem bracketed (hcs : IsBalanced cs) : IsBalanced ('(' :: (cs ++ [')'])) := by
  intro depth rest
  rw [List.cons_append, closesAtEnd, List.append_assoc, hcs]
  show closesAtEnd (depth + 1 + 1) (')' :: rest) = _
  rw [closesAtEnd, if_neg (by omega)]
  rfl

/-- The brackets around a balanced text are seen. -/
theorem encloses (hcs : IsBalanced cs) : encloses ('(' :: (cs ++ [')'])) = true := by
  show closesAtEnd (0 + 1) (cs ++ [')']) = true
  rw [hcs]
  rfl

theorem join {sep : String} {texts : List String} (hsep : IsBalanced sep.toList)
    (htexts : ∀ t ∈ texts, IsBalanced t.toList) : IsBalanced (Text.join sep texts).toList := by
  induction texts with
  | nil => exact nil
  | cons t texts ih =>
    rw [List.forall_mem_cons] at htexts
    cases texts with
    | nil => exact htexts.1
    | cons u texts =>
      rw [Text.join_cons_cons, String.toList_append, String.toList_append]
      exact (htexts.1.append hsep).append (ih htexts.2)

end IsBalanced

end MathExpr

end Dql
