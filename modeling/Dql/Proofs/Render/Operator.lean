import Dql.Proofs.Render.MathText

/-!
# Which operators can be told from the text of an expression

An expression changes its text with the name of an operator, unless this name is not written:
an operator that stands between its operands is not written if it has only one, and nothing is
written of what stands below an operand (`MathExpr.NameUnwritten`). For ordinary expressions
there is no other exception (`MathExpr.render_eq_iff_of_renamed`). If names or operands have
brackets of their own, or look like a minus sign, two infix texts may differ in nothing but
brackets around the whole, which are written only once.

The proof goes from the operator outwards. Two operators over the same operands have the same
text exactly if neither is written (`MathExpr.apply_eq_iff`), and the text of one operand is
known from that of the operator above it (`MathExpr.apply_hole`).
-/

namespace Dql

open Text

namespace MathExpr

/-! ## Positions in an expression -/

/-- An expression without one of its operands: what stands before that one and after it. -/
structure Frame where
  fn : String := ""
  variableName : String := ""
  constant : Scalar := {}
  values : Table Uid Scalar := .empty
  before : List MathExpr := []
  after : List MathExpr := []

/-- The expression with the missing operand. -/
def Frame.fill (c : Frame) (e : MathExpr) : MathExpr :=
  ⟨c.fn, c.variableName, c.constant, c.values, c.before ++ e :: c.after⟩

/-- The expression that has the operator `x`, named `fn`, at the end of a path. The first frame
is the outermost. -/
def withName (frames : List Frame) (x : MathExpr) (fn : String) : MathExpr :=
  frames.foldr Frame.fill { x with fn := fn }

/-- The name of the operator at the end of a path is not written, neither as `f` nor as `g`. -/
def NameUnwritten (frames : List Frame) (x : MathExpr) (f g : String) : Prop :=
  (∃ c ∈ frames, c.fn = "") ∨
    (x.operands.length = 1 ∧ styleOf f = .infixed ∧ styleOf g = .infixed)

instance (frames : List Frame) (x : MathExpr) (f g : String) :
    Decidable (NameUnwritten frames x f g) :=
  inferInstanceAs (Decidable ((∃ c ∈ frames, c.fn = "") ∨
    (x.operands.length = 1 ∧ styleOf f = .infixed ∧ styleOf g = .infixed)))

theorem nameUnwritten_cons (c : Frame) (frames : List Frame) (x : MathExpr) (f g : String) :
    NameUnwritten (c :: frames) x f g ↔ c.fn = "" ∨ NameUnwritten frames x f g := by
  unfold NameUnwritten
  simp only [List.mem_cons, exists_eq_or_imp, or_assoc]

/-! ## Operators over the same operands -/

section Operators

variable {f g fn name : String} {texts before after : List String}

theorem eq_of_styleOf_application (h : styleOf fn = .application name) :
    name = fn ∧ fn ∈ calledFunctions := by
  unfold styleOf at h
  split at h
  next => exact absurd h (by simp)
  next =>
    split at h
    next hmem => exact ⟨(Style.application.inj h).symm, List.contains_iff_mem.1 hmem⟩
    next => exact absurd h (by simp)

theorem eq_of_styleOf_negation (h : styleOf fn = .negation) : fn = "u-" := by
  unfold styleOf at h
  split at h
  next heq => exact heq
  next =>
    split at h
    next => exact absurd h (by simp)
    next => exact absurd h (by simp)

/-- The text of a call starts with a letter. -/
theorem head?_application (h : styleOf fn = .application name) (texts : List String) :
    (apply fn texts).toList.head? ≠ some '-' ∧ (apply fn texts).toList.head? ≠ some '(' := by
  have hall : ∀ fn ∈ calledFunctions, fn.toList ≠ [] ∧ fn.toList.head? ≠ some '-' ∧
      fn.toList.head? ≠ some '(' := by decide
  obtain ⟨rfl, hmem⟩ := eq_of_styleOf_application h
  obtain ⟨hne, hminus, hopen⟩ := hall _ hmem
  obtain ⟨c, cs, hchars⟩ := List.exists_cons_of_ne_nil hne
  have hhead : (apply name texts).toList.head? = name.toList.head? := by
    unfold apply
    rw [h]
    simp only [String.toList_append, List.append_assoc, hchars]
    rfl
  rw [hhead]
  exact ⟨hminus, hopen⟩

/-- Only a negation starts with a minus sign. -/
theorem head?_apply_eq_minus (texts : List String) :
    (apply fn texts).toList.head? = some '-' ↔ styleOf fn = .negation := by
  cases h : styleOf fn with
  | negation => simp [apply, h]
  | application name => simp [(head?_application h texts).1]
  | infixed => simp [apply, h]

/-- Only an operator between its operands starts with a bracket. -/
theorem head?_apply_eq_open (texts : List String) :
    (apply fn texts).toList.head? = some '(' ↔ styleOf fn = .infixed := by
  cases h : styleOf fn with
  | negation => simp [apply, h]
  | application name => simp [(head?_application h texts).2]
  | infixed => simp [apply, h]

/-- Two texts that differ in what stands between their parts differ in length by as much, as
often as there are parts. -/
theorem length_following (f g : String) (texts : List String) :
    (following f texts).length + texts.length * g.toList.length
      = (following g texts).length + texts.length * f.toList.length := by
  induction texts with
  | nil =>
    rw [List.length_nil, Nat.zero_mul, Nat.zero_mul]
    rfl
  | cons t texts ih =>
    rw [following_cons, following_cons, List.length_append, List.length_append,
      List.length_append, List.length_append, List.length_cons, Nat.succ_mul, Nat.succ_mul]
    omega

/-- Joined texts show what stands between them, if there are two of them. -/
theorem join_eq_iff (hne : f ≠ g) (htexts : texts ≠ []) :
    join f texts = join g texts ↔ texts.length = 1 := by
  match texts, htexts with
  | [t], _ => simp
  | t :: u :: texts, _ =>
    refine iff_of_false (fun heq => hne ?_) (by simp)
    have hchars := congrArg String.toList heq
    rw [toList_join_cons, toList_join_cons] at hchars
    have hrest := List.append_cancel_left hchars
    have hlength := length_following f g (u :: texts)
    rw [hrest, Nat.add_left_cancel_iff] at hlength
    rw [following_cons, following_cons] at hrest
    have hsep := (List.append_inj hrest (Nat.eq_of_mul_eq_mul_left (by simp) hlength.symm)).1
    exact String.toList_inj.1 hsep

/-- **Two operators over the same operands have the same text** exactly if both stand between
their operands and there is only one. -/
theorem apply_eq_iff (hne : f ≠ g) (htexts : texts ≠ []) :
    apply f texts = apply g texts ↔
      texts.length = 1 ∧ styleOf f = .infixed ∧ styleOf g = .infixed := by
  constructor
  · intro heq
    have hminus : styleOf f = .negation ↔ styleOf g = .negation := by
      rw [← head?_apply_eq_minus texts, heq, head?_apply_eq_minus]
    have hopen : styleOf f = .infixed ↔ styleOf g = .infixed := by
      rw [← head?_apply_eq_open texts, heq, head?_apply_eq_open]
    cases hf : styleOf f with
    | negation =>
      have hg := hminus.1 hf
      exact absurd ((eq_of_styleOf_negation hf).trans (eq_of_styleOf_negation hg).symm) hne
    | infixed =>
      have hg := hopen.1 hf
      refine ⟨?_, rfl, hg⟩
      simp only [apply, hf, hg, String.append_left_inj, String.append_right_inj] at heq
      exact (join_eq_iff hne htexts).1 heq
    | application name =>
      cases hg : styleOf g with
      | negation => exact absurd (hminus.2 hg) (by simp [hf])
      | infixed => exact absurd (hopen.2 hg) (by simp [hf])
      | application name' =>
        simp only [apply, hf, hg, String.append_left_inj] at heq
        rw [(eq_of_styleOf_application hf).1, (eq_of_styleOf_application hg).1] at heq
        exact absurd heq hne
  · rintro ⟨hone, hf, hg⟩
    simp only [apply, hf, hg]
    rw [(join_eq_iff hne htexts).2 hone]

/-- The text of one operand comes out between two fixed texts. -/
theorem wraps_apply (fn : String) (before after : List String) :
    Wraps fun s => apply fn (before ++ s :: after) := by
  unfold apply
  split
  next => exact (wraps_behind "-").comp (wraps_join _ before after)
  next name _ => exact (wraps_between (name ++ "(") ")").comp (wraps_join _ before after)
  next => exact (wraps_between "(" ")").comp (wraps_join _ before after)

/-- **The text of one operand is known** from that of the operator. -/
theorem apply_hole (fn s t : String) (before after : List String) :
    apply fn (before ++ s :: after) = apply fn (before ++ t :: after) ↔ s = t :=
  (wraps_apply fn before after).eq_iff s t

end Operators

/-! ## The text around an operand -/

section Frames

variable {node text : String} {c : Frame} {e : MathExpr}

theorem Frame.toInfix_fill_operand (h : c.fn = "") (e : MathExpr) :
    (c.fill e).toInfix node = operandText node c.variableName c.constant :=
  toInfix_operand h node

theorem Frame.toInfix_fill_eq_ok (h : c.fn ≠ "") :
    (c.fill e).toInfix node = .ok text ↔ ∃ s first more, e.toInfix node = .ok s ∧
      allToInfix node c.before = .ok first ∧ allToInfix node c.after = .ok more ∧
      apply c.fn (first ++ s :: more) = text := by
  unfold fill
  rw [toInfix_operator_eq_ok h]
  constructor
  · rintro ⟨texts, -, htexts, happly⟩
    obtain ⟨first, rest, hfirst, hrest, rfl⟩ := allToInfix_append_eq_ok.1 htexts
    obtain ⟨s, more, hs, hmore, rfl⟩ := allToInfix_cons_eq_ok.1 hrest
    exact ⟨s, first, more, hs, hfirst, hmore, happly⟩
  · rintro ⟨s, first, more, hs, hfirst, hmore, happly⟩
    exact ⟨_, by simp, allToInfix_append_eq_ok.2
      ⟨_, _, hfirst, allToInfix_cons_eq_ok.2 ⟨_, _, hs, hmore, rfl⟩, rfl⟩, happly⟩

variable {frames : List Frame} {x : MathExpr} {f g : String}

/-- Under another name an operator has a text, too. It is the same one exactly if neither name
is written. -/
theorem toInfix_renamed (hf : f ≠ "") (hg : g ≠ "") (hne : f ≠ g)
    (h : (withName [] x f).toInfix node = .ok text) :
    ∃ t, (withName [] x g).toInfix node = .ok t ∧ (text = t ↔ NameUnwritten [] x f g) := by
  obtain ⟨texts, hoperands, htexts, rfl⟩ := (toInfix_operator_eq_ok hf).1 h
  refine ⟨apply g texts, (toInfix_operator_eq_ok hg).2 ⟨texts, hoperands, htexts, rfl⟩, ?_⟩
  rw [apply_eq_iff hne (ne_nil_of_allToInfix htexts hoperands), length_of_allToInfix htexts]
  simp [NameUnwritten]

/-- The same at the end of a path. Each frame passes on whether the texts are the same, but for
an operand: what stands below it is not written. -/
theorem toInfix_withName (hf : f ≠ "") (hg : g ≠ "") (hne : f ≠ g)
    (h : (withName frames x f).toInfix node = .ok text) :
    ∃ t, (withName frames x g).toInfix node = .ok t ∧
      (text = t ↔ NameUnwritten frames x f g) := by
  induction frames generalizing text with
  | nil => exact toInfix_renamed hf hg hne h
  | cons c frames ih =>
    change (c.fill (withName frames x f)).toInfix node = .ok text at h
    show ∃ t, (c.fill (withName frames x g)).toInfix node = .ok t ∧ _
    rw [nameUnwritten_cons]
    by_cases hc : c.fn = ""
    · rw [c.toInfix_fill_operand hc] at h ⊢
      exact ⟨text, h, by simp [hc]⟩
    · obtain ⟨s, first, more, hs, hfirst, hmore, rfl⟩ := (c.toInfix_fill_eq_ok hc).1 h
      obtain ⟨t, ht, hsame⟩ := ih hs
      refine ⟨apply c.fn (first ++ t :: more),
        (c.toInfix_fill_eq_ok hc).2 ⟨t, first, more, ht, hfirst, hmore, rfl⟩, ?_⟩
      rw [apply_hole, hsame, or_iff_right hc]

end Frames

/-! ## Ordinary expressions -/

/-- An expression in which nothing but its structure writes brackets, and no operand is a row
of minus signs. -/
inductive IsOrdinary : MathExpr → Prop where
  | operand {e : MathExpr} (hfn : e.fn = "") (h : ∀ node text,
      operandText node e.variableName e.constant = .ok text →
        HasNoBracket text ∧ ∃ m ∈ text.toList, m ≠ '-') : IsOrdinary e
  | operator {e : MathExpr} (hfn : e.fn ≠ "") (hname : HasNoBracket e.fn)
      (h : ∀ e' ∈ e.operands, IsOrdinary e') : IsOrdinary e

/-- What the text of an ordinary expression is like. -/
structure IsOrdinaryText (text : String) : Prop where
  balanced : IsBalanced text.toList
  notMinus : ∃ m ∈ text.toList, m ≠ '-'

section Ordinary

variable {fn f g node text s t : String} {texts : List String} {e : MathExpr}

theorem isBalanced_apply (hfn : IsBalanced fn.toList)
    (htexts : ∀ t ∈ texts, IsBalanced t.toList) : IsBalanced (apply fn texts).toList := by
  have hcomma : IsBalanced ",".toList := .of_not_mem (by decide) (by decide)
  unfold apply
  cases h : styleOf fn with
  | negation =>
    rw [String.toList_append]
    exact .cons (by decide) (by decide) (.join hcomma htexts)
  | application name =>
    rw [(eq_of_styleOf_application h).1, String.toList_append, String.toList_append,
      String.toList_append, List.append_assoc, List.append_assoc]
    exact hfn.append (IsBalanced.join hcomma htexts).bracketed
  | infixed =>
    rw [String.toList_append, String.toList_append, List.append_assoc]
    exact (IsBalanced.join hfn htexts).bracketed

/-- The brackets of an ordinary operator are seen exactly if it stands between its operands. -/
theorem encloses_apply (hfn : HasNoBracket fn) (htexts : ∀ t ∈ texts, IsOrdinaryText t) :
    encloses (apply fn texts).toList = true ↔ styleOf fn = .infixed := by
  constructor
  · intro h
    unfold encloses at h
    rw [Bool.and_eq_true, beq_iff_eq] at h
    exact (head?_apply_eq_open texts).1 h.1
  · intro h
    unfold apply
    rw [h, String.toList_append, String.toList_append, List.append_assoc]
    exact IsBalanced.encloses
      (.join (.of_not_mem hfn.1 hfn.2) fun t ht => (htexts t ht).balanced)

theorem isOrdinaryText_apply (hfn : HasNoBracket fn) (hne : texts ≠ [])
    (htexts : ∀ t ∈ texts, IsOrdinaryText t) : IsOrdinaryText (apply fn texts) := by
  refine ⟨isBalanced_apply (.of_not_mem hfn.1 hfn.2) fun t ht => (htexts t ht).balanced, ?_⟩
  cases h : styleOf fn with
  | negation =>
    obtain ⟨t, ts, rfl⟩ := List.exists_cons_of_ne_nil hne
    obtain ⟨m, hm, hminus⟩ := (htexts t List.mem_cons_self).notMinus
    refine ⟨m, ?_, hminus⟩
    simp only [apply, h]
    rw [String.toList_append, toList_join_cons]
    exact List.mem_append_right _ (List.mem_append_left _ hm)
  | application name => exact ⟨'(', by simp [apply, h], by decide⟩
  | infixed => exact ⟨'(', by simp [apply, h], by decide⟩

theorem exists_of_mem_allToInfix {es : List MathExpr} (h : allToInfix node es = .ok texts)
    (ht : t ∈ texts) : ∃ e ∈ es, e.toInfix node = .ok t := by
  induction es generalizing texts with
  | nil =>
    obtain rfl : [] = texts := Except.ok.inj h
    exact absurd ht (by simp)
  | cons e es ih =>
    obtain ⟨first, more, hfirst, hmore, rfl⟩ := allToInfix_cons_eq_ok.1 h
    rcases List.mem_cons.1 ht with rfl | ht
    · exact ⟨e, List.mem_cons_self, hfirst⟩
    · obtain ⟨e', he', htext⟩ := ih hmore ht
      exact ⟨e', List.mem_cons_of_mem e he', htext⟩

theorem isOrdinaryText_of_allToInfix {es : List MathExpr}
    (hes : ∀ e ∈ es, ∀ {node t}, e.toInfix node = .ok t → IsOrdinaryText t)
    (h : allToInfix node es = .ok texts) : ∀ t ∈ texts, IsOrdinaryText t := by
  intro t ht
  obtain ⟨e, he, htext⟩ := exists_of_mem_allToInfix h ht
  exact hes e he htext

theorem IsOrdinary.isOrdinaryText (h : e.IsOrdinary) :
    ∀ {node t}, e.toInfix node = .ok t → IsOrdinaryText t := by
  induction h with
  | @operand e hfn h =>
    intro node t ht
    rw [toInfix_operand hfn] at ht
    obtain ⟨hbrackets, hminus⟩ := h node t ht
    exact ⟨.of_not_mem hbrackets.1 hbrackets.2, hminus⟩
  | @operator e hfn hname _ ih =>
    intro node t ht
    obtain ⟨fn, name, constant, values, operands⟩ := e
    obtain ⟨texts, hoperands, htexts, rfl⟩ := (toInfix_operator_eq_ok hfn).1 ht
    exact isOrdinaryText_apply hname (ne_nil_of_allToInfix htexts hoperands)
      (isOrdinaryText_of_allToInfix ih htexts)

/-- The parts of an ordinary operator's text: its name and the texts of its operands. -/
theorem IsOrdinary.exists_texts (h : e.IsOrdinary) (hfn : e.fn ≠ "") (ht : e.toInfix node = .ok t) :
    HasNoBracket e.fn ∧ ∃ texts, allToInfix node e.operands = .ok texts ∧ texts ≠ [] ∧
      (∀ u ∈ texts, IsOrdinaryText u) ∧ apply e.fn texts = t := by
  obtain ⟨fn, name, constant, values, operands⟩ := e
  cases h with
  | operand hempty _ => exact absurd hempty hfn
  | operator _ hname h =>
    obtain ⟨texts, hoperands, htexts, happly⟩ := (toInfix_operator_eq_ok hfn).1 ht
    exact ⟨hname, texts, htexts, ne_nil_of_allToInfix htexts hoperands,
      isOrdinaryText_of_allToInfix (fun e he => (h e he).isOrdinaryText) htexts, happly⟩

/-- The text of an ordinary expression has brackets around the whole exactly if its operator
stands between the operands. -/
theorem IsOrdinary.encloses_iff (h : e.IsOrdinary) (ht : e.toInfix node = .ok t) :
    encloses t.toList = true ↔ e.style = some .infixed := by
  by_cases hfn : e.fn = ""
  · refine iff_of_false (fun hencloses => ?_) (by simp [style_eq_none_iff.2 hfn])
    unfold encloses at hencloses
    rw [Bool.and_eq_true, beq_iff_eq] at hencloses
    cases h with
    | operator hne _ _ => exact hne hfn
    | operand _ h =>
      rw [toInfix_operand hfn] at ht
      exact (h node t ht).1.1 (List.mem_of_mem_head? hencloses.1)
  · obtain ⟨hname, texts, -, -, htexts, rfl⟩ := h.exists_texts hfn ht
    rw [encloses_apply hname htexts, style_of_ne hfn, Option.some.injEq]

/-- No other characters stand in a word. -/
theorem not_mem_of_word {m : Char} (hall : ∀ c ∈ text.toList, isIdentifierChar c = true)
    (hm : isIdentifierChar m = false) : m ∉ text.toList := by
  intro hmem
  rw [hall m hmem] at hm
  exact absurd hm (by decide)

theorem IsPlain.isOrdinary_operand (h : e.IsPlain) (hstyle : e.style = none) : e.IsOrdinary := by
  have hfn := style_eq_none_iff.1 hstyle
  refine .operand hfn fun node text htext => ?_
  rw [← toInfix_operand hfn, h.toInfix_eq] at htext
  obtain ⟨hne, hall⟩ := h.word_of_operand hstyle
  rw [Except.ok.inj htext] at hne hall
  obtain ⟨c, cs, hchars⟩ := List.exists_cons_of_ne_nil fun hnil => hne (String.toList_inj.1 hnil)
  have hmem : c ∈ text.toList := by
    rw [hchars]
    exact List.mem_cons_self
  refine ⟨⟨not_mem_of_word hall (by decide), not_mem_of_word hall (by decide)⟩, c, hmem, ?_⟩
  rintro rfl
  exact not_mem_of_word hall (by decide) hmem

/-- Plain expressions are ordinary. -/
theorem IsPlain.isOrdinary (h : e.IsPlain) : e.IsOrdinary := by
  have hall : ∀ fn ∈ "u-" :: infixOperators ++ calledFunctions, fn ≠ "" ∧ HasNoBracket fn := by
    decide
  induction h with
  | named h => exact (IsPlain.named h).isOrdinary_operand rfl
  | number hne h => exact (IsPlain.number hne h).isOrdinary_operand rfl
  | infixed hop _ _ ih =>
    obtain ⟨hne, hname⟩ := hall _ (List.mem_append_left _ (List.mem_cons_of_mem _ hop))
    exact .operator hne hname ih
  | application hfn _ _ ih =>
    obtain ⟨hne, hname⟩ := hall _ (List.mem_append_right _ hfn)
    exact .operator hne hname ih
  | negation _ ih =>
    obtain ⟨hne, hname⟩ := hall "u-" List.mem_cons_self
    exact .operator hne hname (List.forall_mem_singleton.2 ih)

/-! ## Brackets around the whole of an ordinary expression -/

/-- Two texts that differ in what stands between their parts have a character as often, if it
does not stand there. -/
theorem count_following {m : Char} {f g : String} (hf : m ∉ f.toList) (hg : m ∉ g.toList)
    (texts : List String) : (following f texts).count m = (following g texts).count m := by
  induction texts with
  | nil => rfl
  | cons t texts ih =>
    rw [following_cons, following_cons, List.count_append, List.count_append, List.count_append,
      List.count_append, List.count_eq_zero_of_not_mem hf, List.count_eq_zero_of_not_mem hg, ih]

/-- A text that moves on by one character if it is repeated has only that one. -/
theorem eq_of_append_eq_cons {m : Char} {cs r r' : List Char} (h : cs ++ r = m :: (cs ++ r')) :
    ∀ c ∈ cs, c = m := by
  induction cs with
  | nil => simp
  | cons c cs ih =>
    obtain ⟨rfl, hrest⟩ := List.cons.inj h
    exact List.forall_mem_cons.2 ⟨rfl, ih hrest⟩

/-- What stands between the brackets of an operator is not what another operator writes: a
call writes one bracket more, and a minus sign in front would have to be matched by the first
operand. -/
theorem join_ne_apply (hf : HasNoBracket f) (hg : styleOf g ≠ .infixed) (hne : texts ≠ [])
    (htexts : ∀ t ∈ texts, IsOrdinaryText t) : join f texts ≠ apply g texts := by
  obtain ⟨t, ts, rfl⟩ := List.exists_cons_of_ne_nil hne
  intro heq
  have hchars := congrArg String.toList heq
  cases hstyle : styleOf g with
  | negation =>
    simp only [apply, hstyle] at hchars
    rw [String.toList_append, toList_join_cons, toList_join_cons] at hchars
    obtain ⟨m, hm, hminus⟩ := (htexts t List.mem_cons_self).notMinus
    exact hminus (eq_of_append_eq_cons hchars m hm)
  | application name =>
    simp only [apply, hstyle] at hchars
    have hcount := congrArg (List.count '(') hchars
    have hcomma : '(' ∉ ",".toList := by decide
    have hopen : "(".toList.count '(' = 1 := by decide
    simp only [String.toList_append, toList_join_cons, List.count_append, hopen,
      count_following hf.1 hcomma] at hcount
    omega
  | infixed => exact hg hstyle

variable {frames : List Frame} {x : MathExpr}

/-- An ordinary expression is not the same as under another name for brackets alone. -/
theorem not_isBracketed (hf : f ≠ "") (hg : g ≠ "") (hord : IsOrdinary (withName frames x f))
    (hord' : IsOrdinary (withName frames x g)) (hs : (withName frames x f).toInfix node = .ok s)
    (ht : (withName frames x g).toInfix node = .ok t) : ¬ IsBracketed s t := by
  rintro ⟨heq, hbrackets, hbrackets'⟩
  rw [hord.encloses_iff hs] at hbrackets
  rw [← Bool.not_eq_true, hord'.encloses_iff ht] at hbrackets'
  cases frames with
  | cons c frames =>
    -- both have the operator of the outermost frame
    exact hbrackets' hbrackets
  | nil =>
    obtain ⟨hname, texts, htexts, hne, hall, rfl⟩ := hord.exists_texts hf hs
    obtain ⟨-, texts', htexts', -, -, rfl⟩ := hord'.exists_texts hg ht
    obtain rfl := Except.ok.inj (htexts.symm.trans htexts')
    have hstyle : styleOf f = .infixed :=
      Option.some.inj ((style_of_ne hf).symm.trans hbrackets)
    have hstyle' : styleOf g ≠ .infixed := fun h =>
      hbrackets' ((style_of_ne hg).trans (congrArg some h))
    change apply f texts = "(" ++ apply g texts ++ ")" at heq
    rw [apply, hstyle, String.append_left_inj, String.append_right_inj] at heq
    exact join_ne_apply hname hstyle' hne hall heq

end Ordinary

/-! ## Operators and the text of an expression -/

theorem render_eq_ok {node text : String} {e : MathExpr} (h : e.toInfix node = .ok text) :
    e.render node = .ok ("math" ++ bracket text) := by
  rw [render_eq, h]
  rfl

/-- **When the text of an expression does not change with the name of an operator**: if the name
is not written, and else only for brackets around the whole, which never happens to ordinary
expressions. Under the other name the expression has a text, too. -/
theorem render_eq_iff_of_renamed {frames : List Frame} {x : MathExpr} {f g node text : String}
    (hf : f ≠ "") (hg : g ≠ "") (hne : f ≠ g)
    (h : (withName frames x f).render node = .ok text) :
    ∃ s t, (withName frames x f).toInfix node = .ok s ∧ (withName frames x g).toInfix node = .ok t ∧
      ((withName frames x f).render node = (withName frames x g).render node ↔
        NameUnwritten frames x f g ∨ IsBracketed s t ∨ IsBracketed t s) ∧
      (IsOrdinary (withName frames x f) → IsOrdinary (withName frames x g) →
        ((withName frames x f).render node = (withName frames x g).render node ↔
          NameUnwritten frames x f g)) := by
  rw [render_eq] at h
  obtain ⟨s, hs, -⟩ := exists_of_map_eq_ok h
  obtain ⟨t, ht, hsame⟩ := toInfix_withName hf hg hne hs
  have hiff : (withName frames x f).render node = (withName frames x g).render node ↔
      NameUnwritten frames x f g ∨ IsBracketed s t ∨ IsBracketed t s := by
    rw [render_eq_ok hs, render_eq_ok ht, Except.ok.injEq, String.append_right_inj,
      bracket_eq_iff, hsame]
  refine ⟨s, t, hs, ht, hiff, fun hord hord' => hiff.trans ?_⟩
  exact or_iff_left (not_or.2
    ⟨not_isBracketed hf hg hord hord' hs ht, not_isBracketed hg hf hord' hord ht hs⟩)

/-- The operator of `a` and a product, or a difference, of `b` and `c`. -/
def sumFrame : Frame where
  fn := "+"
  before := [{ variableName := "a" }]

def factors : MathExpr where
  operands := [{ variableName := "b" }, { variableName := "c" }]

/-- A product in a sum is not written like a difference in it. -/
theorem render_eq_iff_of_renamed_sum :
    (("*" ≠ "" ∧ "-" ≠ "" ∧ "*" ≠ "-") ∧
      (withName [sumFrame] factors "*").render "d" = .ok "math(a+(b*c))") ∧
      (withName [sumFrame] factors "*").IsOrdinary ∧
      (withName [sumFrame] factors "-").IsOrdinary ∧
      (withName [sumFrame] factors "*").render "d"
        ≠ (withName [sumFrame] factors "-").render "d" := by
  have hplain : ∀ op ∈ infixOperators, (withName [sumFrame] factors op).IsPlain := by
    intro op hop
    have hfactors : ∀ e ∈ factors.operands, e.IsPlain := List.forall_mem_cons.2
      ⟨.named (by decide), List.forall_mem_singleton.2 (.named (by decide))⟩
    exact .infixed (show "+" ∈ infixOperators by decide) (by simp [sumFrame])
      (List.forall_mem_cons.2 ⟨.named (by decide),
        List.forall_mem_singleton.2 (.infixed hop (by decide) hfactors)⟩)
  have hnames : "*" ≠ "" ∧ "-" ≠ "" ∧ "*" ≠ "-" := by decide
  have hrender : (withName [sumFrame] factors "*").render "d" = .ok "math(a+(b*c))" := rfl
  have hproduct := (hplain "*" (by decide)).isOrdinary
  have hdifference := (hplain "-" (by decide)).isOrdinary
  obtain ⟨s, t, -, -, -, hiff⟩ := render_eq_iff_of_renamed hnames.1 hnames.2.1 hnames.2.2 hrender
  refine ⟨⟨hnames, hrender⟩, hproduct, hdifference, ?_⟩
  rw [Ne, hiff hproduct hdifference]
  decide

/-- Functions of one variable that have no call form of their own are all written alike. -/
theorem render_floor_eq_render_ceil :
    (withName [] { operands := [{ variableName := "a" }] } "floor").render "d" = .ok "math(a)" ∧
      (withName [] { operands := [{ variableName := "a" }] } "ceil").render "d" = .ok "math(a)" :=
  ⟨rfl, rfl⟩

-- An operand that looks like a minus sign: `--,y` and `(--,y)` differ in their brackets alone.
example :
    let x : MathExpr := { operands := [{ variableName := "-" }, { variableName := "y" }] }
    (withName [] x "u-").render "d" = (withName [] x "-,").render "d" :=
  rfl

end MathExpr

end Dql
