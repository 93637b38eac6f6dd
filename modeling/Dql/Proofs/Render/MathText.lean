import Dql.Proofs.Render.Infix
import Dql.Proofs.Text.Cut

/-!
# The text of an expression is unambiguous

Two plain expressions with the same text are the same (`MathExpr.expr_eq_of_render_eq`). An
expression is plain if its operands are variables and whole numbers and each operator has as
many operands as it is written with (`MathExpr.IsPlain`).

The start of a text says how the expression is put together: a bracket opens operands with
operators between them, a minus sign is a negation, a word with a bracket behind it is a call
and any other word an operand (`readStyle`, `IsPlain.readStyle_eq`). An operand ends where its
word does, so it is known from the text if the word does not go on behind it and is not made a
call; all that stands behind an operand has this property (`Ends isIdentifierChar '('`). Behind
the first operand stands the operator, of which one may be the start of another one; but no
operand starts with the sign that would make it longer (`readOperator_append`).

The brackets around the whole take nothing away: if they made an operator the same as another
expression, this would be the first operand and all others would have no text.
-/

namespace Dql

open Text

namespace MathExpr

/-! ## Plain expressions -/

/-- The operators that stand between operands. -/
def infixOperators : List String := ["+", "-", "*", "/", "%", "<", ">", "<=", ">=", "==", "!="]

/-- The functions that are written as calls. -/
def calledFunctions : List String := ["ln", "exp", "max", "sqrt", "cond"]

/-- An expression over variables and whole numbers. An operand holds nothing but its name or
its number, an operator nothing but its operands. -/
inductive IsPlain : MathExpr → Prop where
  | named {name : String} (h : IsIdentifier name) : IsPlain { variableName := name }
  | number {digits : String} (hne : digits ≠ "") (h : ∀ c ∈ digits.toList, c.isDigit = true) :
      IsPlain { constant := { typeId := 4, value := .string digits } }
  | infixed {op : String} {es : List MathExpr} (hop : op ∈ infixOperators) (htwo : 2 ≤ es.length)
      (h : ∀ e ∈ es, IsPlain e) : IsPlain { fn := op, operands := es }
  | application {fn : String} {es : List MathExpr} (hfn : fn ∈ calledFunctions) (hne : es ≠ [])
      (h : ∀ e ∈ es, IsPlain e) : IsPlain { fn := fn, operands := es }
  | negation {e : MathExpr} (h : IsPlain e) : IsPlain { fn := "u-", operands := [e] }

theorem style_infixed {op : String} (hop : op ∈ infixOperators) (es : List MathExpr) :
    style { fn := op, operands := es } = some .infixed := by
  have hall : ∀ op ∈ infixOperators, op ≠ "" ∧ styleOf op = .infixed := by decide
  rw [style_of_ne (hall op hop).1, (hall op hop).2]

theorem style_application {fn : String} (hfn : fn ∈ calledFunctions) (es : List MathExpr) :
    style { fn := fn, operands := es } = some (.application fn) := by
  have hall : ∀ fn ∈ calledFunctions, fn ≠ "" ∧ styleOf fn = .application fn := by decide
  rw [style_of_ne (hall fn hfn).1, (hall fn hfn).2]

/-! ## Texts -/

/-- The infix text of an expression; empty if it has none. -/
def infixText (e : MathExpr) : String := (e.toInfix "").toOption.getD ""

theorem infixText_eq_of_toInfix {e : MathExpr} {t : String} (h : e.toInfix "" = .ok t) :
    e.infixText = t := by
  unfold infixText
  rw [h]
  rfl

theorem allToInfix_eq_of_forall {node : String} {es : List MathExpr}
    (h : ∀ e ∈ es, e.toInfix node = .ok e.infixText) :
    allToInfix node es = .ok (es.map infixText) := by
  induction es with
  | nil => rfl
  | cons e es ih =>
    rw [List.forall_mem_cons] at h
    exact allToInfix_cons_eq_ok.2 ⟨_, _, h.1, ih h.2, rfl⟩

theorem toInfix_named {name : String} (h : name ≠ "") (node : String) :
    toInfix node { variableName := name } = .ok name := by
  have hempty : ({} : Scalar).isEmpty = true := rfl
  rw [toInfix_operand rfl]
  unfold operandText
  rw [if_neg (by simp [hempty]), if_pos (by simpa using h)]

theorem toInfix_number (node digits : String) :
    toInfix node { constant := { typeId := 4, value := .string digits } } = .ok digits := by
  rw [toInfix_operand rfl]
  rfl

theorem toInfix_of_forall {node fn : String} {es : List MathExpr} (hfn : fn ≠ "") (hne : es ≠ [])
    (h : ∀ e ∈ es, e.toInfix node = .ok e.infixText) :
    toInfix node { fn := fn, operands := es } = .ok (apply fn (es.map infixText)) := by
  rw [toInfix_operator hfn hne, allToInfix_eq_of_forall h]
  rfl

namespace IsPlain

variable {e f : MathExpr}

/-- A plain expression has an infix text, under whatever name faults would be reported. -/
theorem toInfix_eq (h : e.IsPlain) : ∀ node, e.toInfix node = .ok e.infixText := by
  have hoperator : ∀ {fn : String} {es : List MathExpr}, fn ≠ "" → es ≠ [] →
      (∀ e ∈ es, ∀ node, e.toInfix node = .ok e.infixText) → ∀ node,
      toInfix node { fn := fn, operands := es } = .ok (infixText { fn := fn, operands := es }) := by
    intro fn es hfn hne hall node
    rw [infixText_eq_of_toInfix (toInfix_of_forall hfn hne fun e he => hall e he ""),
      toInfix_of_forall hfn hne fun e he => hall e he node]
  induction h with
  | named h =>
    intro node
    rw [infixText_eq_of_toInfix (toInfix_named h.ne_empty ""), toInfix_named h.ne_empty node]
  | number _ _ =>
    intro node
    rw [infixText_eq_of_toInfix (toInfix_number "" _), toInfix_number]
  | infixed hop htwo _ ih =>
    have hall : ∀ op ∈ infixOperators, op ≠ "" := by decide
    exact hoperator (hall _ hop) (List.ne_nil_of_length_pos (by omega)) ih
  | application hfn hne _ ih =>
    have hall : ∀ fn ∈ calledFunctions, fn ≠ "" := by decide
    exact hoperator (hall _ hfn) hne ih
  | negation _ ih =>
    exact hoperator (by decide) (by simp) (List.forall_mem_singleton.2 ih)

/-- The text of an operator, put together from those of its operands. -/
theorem infixText_operator {fn : String} {es : List MathExpr} (hfn : fn ≠ "") (hne : es ≠ [])
    (h : ∀ e ∈ es, IsPlain e) :
    infixText { fn := fn, operands := es } = apply fn (es.map infixText) :=
  infixText_eq_of_toInfix (toInfix_of_forall hfn hne fun e he => (h e he).toInfix_eq "")

theorem toList_infixed {op : String} {es : List MathExpr} (hop : op ∈ infixOperators)
    (htwo : 2 ≤ es.length) (h : ∀ e ∈ es, IsPlain e) (r : List Char) :
    (infixText { fn := op, operands := es }).toList ++ r
      = '(' :: ((join op (es.map infixText)).toList ++ ')' :: r) := by
  have hall : ∀ op ∈ infixOperators, op ≠ "" ∧ styleOf op = .infixed := by decide
  rw [infixText_operator (hall op hop).1 (List.ne_nil_of_length_pos (by omega)) h]
  unfold apply
  rw [(hall op hop).2]
  simp only [String.toList_append, List.append_assoc]
  rfl

theorem toList_application {fn : String} {es : List MathExpr} (hfn : fn ∈ calledFunctions)
    (hne : es ≠ []) (h : ∀ e ∈ es, IsPlain e) (r : List Char) :
    (infixText { fn := fn, operands := es }).toList ++ r
      = fn.toList ++ '(' :: ((join "," (es.map infixText)).toList ++ ')' :: r) := by
  have hall : ∀ fn ∈ calledFunctions, fn ≠ "" ∧ styleOf fn = .application fn := by decide
  rw [infixText_operator (hall fn hfn).1 hne h]
  unfold apply
  rw [(hall fn hfn).2]
  simp only [String.toList_append, List.append_assoc]
  rfl

theorem toList_negation (h : e.IsPlain) (r : List Char) :
    (infixText { fn := "u-", operands := [e] }).toList ++ r = '-' :: (e.infixText.toList ++ r) := by
  rw [infixText_operator (by decide) (by simp) (List.forall_mem_singleton.2 h)]
  show ("-" ++ e.infixText).toList ++ r = _
  rw [String.toList_append, List.append_assoc]
  rfl

/-! ## Plain expressions by style -/

theorem exists_infixed (h : e.IsPlain) (hstyle : e.style = some .infixed) :
    ∃ op es, e = { fn := op, operands := es } ∧ op ∈ infixOperators ∧ 2 ≤ es.length ∧
      ∀ e ∈ es, IsPlain e := by
  cases h with
  | named _ => exact absurd hstyle (by simp [style])
  | number _ _ => exact absurd hstyle (by simp [style])
  | infixed hop htwo hes => exact ⟨_, _, rfl, hop, htwo, hes⟩
  | application hfn _ _ =>
    rw [style_application hfn] at hstyle
    exact absurd hstyle (by simp)
  | negation _ => exact absurd hstyle (by simp [style, styleOf])

theorem exists_application {fn : String} (h : e.IsPlain)
    (hstyle : e.style = some (.application fn)) :
    ∃ es, e = { fn := fn, operands := es } ∧ es ≠ [] ∧ ∀ e ∈ es, IsPlain e := by
  cases h with
  | named _ => exact absurd hstyle (by simp [style])
  | number _ _ => exact absurd hstyle (by simp [style])
  | infixed hop _ _ =>
    rw [style_infixed hop] at hstyle
    exact absurd hstyle (by simp)
  | application hfn hne hes =>
    rw [style_application hfn] at hstyle
    obtain rfl := Style.application.inj (Option.some.inj hstyle)
    exact ⟨_, rfl, hne, hes⟩
  | negation _ => exact absurd hstyle (by simp [style, styleOf])

theorem exists_negation (h : e.IsPlain) (hstyle : e.style = some .negation) :
    ∃ f, e = { fn := "u-", operands := [f] } ∧ f.IsPlain := by
  cases h with
  | named _ => exact absurd hstyle (by simp [style])
  | number _ _ => exact absurd hstyle (by simp [style])
  | infixed hop _ _ =>
    rw [style_infixed hop] at hstyle
    exact absurd hstyle (by simp)
  | application hfn _ _ =>
    rw [style_application hfn] at hstyle
    exact absurd hstyle (by simp)
  | negation hf => exact ⟨_, rfl, hf⟩

/-! ## What the start of a text says -/

/-- An operand of a plain expression is written as a word. -/
theorem infixText_of_operand (h : e.IsPlain) (hstyle : e.style = none) :
    (∃ name, IsIdentifier name ∧ e = { variableName := name } ∧ e.infixText = name) ∨
      ∃ digits, (digits ≠ "" ∧ ∀ c ∈ digits.toList, c.isDigit = true) ∧
        e = { constant := { typeId := 4, value := .string digits } } ∧ e.infixText = digits := by
  cases h with
  | named h => exact .inl ⟨_, h, rfl, infixText_eq_of_toInfix (toInfix_named h.ne_empty "")⟩
  | number hne h => exact .inr ⟨_, ⟨hne, h⟩, rfl, infixText_eq_of_toInfix (toInfix_number "" _)⟩
  | infixed hop _ _ =>
    rw [style_infixed hop] at hstyle
    exact absurd hstyle (by simp)
  | application hfn _ _ =>
    rw [style_application hfn] at hstyle
    exact absurd hstyle (by simp)
  | negation _ => exact absurd hstyle (by simp [style])

theorem word_of_operand (h : e.IsPlain) (hstyle : e.style = none) :
    e.infixText ≠ "" ∧ ∀ c ∈ e.infixText.toList, isIdentifierChar c = true := by
  rcases h.infixText_of_operand hstyle with ⟨name, hname, -, htext⟩ | ⟨digits, hdigits, -, htext⟩
  · rw [htext]
    exact ⟨hname.ne_empty, hname.all⟩
  · rw [htext]
    exact ⟨hdigits.1, fun c hc => isIdentifierChar_of_isDigit (hdigits.2 c hc)⟩

/-- What may stand behind a plain expression: nothing that goes on with a word or makes it a
call. -/
abbrev Behind : List Char → Prop := Ends isIdentifierChar '('

theorem opening_operand (h : e.IsPlain) (hstyle : e.style = none) {r : List Char} (hr : Behind r) :
    opening (e.infixText.toList ++ r) = (e.infixText.toList, r.head?) :=
  opening_append (h.word_of_operand hstyle).2 fun c hc => (hr c hc).1

/-- The style that the start of a text says: a word and the character behind it. -/
def readStyle (start : List Char × Option Char) : Option Style :=
  if start.1 = [] then if start.2 = some '-' then some .negation else some .infixed
  else if start.2 = some '(' then some (.application (String.ofList start.1))
  else none

/-- **The style of a plain expression is known from the start of its text.** -/
theorem readStyle_eq (h : e.IsPlain) {r : List Char} (hr : Behind r) :
    readStyle (opening (e.infixText.toList ++ r)) = e.style := by
  have hoperand : e.style = none → readStyle (opening (e.infixText.toList ++ r)) = e.style := by
    intro hstyle
    have hword : e.infixText.toList ≠ [] := fun hnil =>
      (h.word_of_operand hstyle).1 (String.toList_inj.1 hnil)
    have hmark : r.head? ≠ some '(' := fun hhead => (hr '(' hhead).2 rfl
    rw [h.opening_operand hstyle hr, hstyle]
    unfold readStyle
    rw [if_neg hword, if_neg hmark]
  cases h with
  | named _ => exact hoperand rfl
  | number _ _ => exact hoperand rfl
  | infixed hop htwo hes =>
    rw [toList_infixed hop htwo hes, style_infixed hop]
    exact congrArg readStyle (opening_word (w := []) (by simp) (by decide) _)
  | @application fn es hfn hne hes =>
    have hall : ∀ fn ∈ calledFunctions, fn.toList ≠ [] ∧ fn.toList.all isIdentifierChar = true := by
      decide
    rw [toList_application hfn hne hes, style_application hfn,
      opening_word (List.all_eq_true.1 (hall fn hfn).2) (by decide)]
    unfold readStyle
    rw [if_neg (hall fn hfn).1, if_pos rfl, String.ofList_toList]
  | negation he =>
    rw [toList_negation he]
    exact congrArg readStyle (opening_word (w := []) (by simp) (by decide) _)

theorem head?_word_ne {w : List Char} (hne : w ≠ []) (hw : ∀ c ∈ w, isIdentifierChar c = true)
    (r : List Char) : (w ++ r).head? ≠ some '=' := by
  obtain ⟨c, cs, rfl⟩ := List.exists_cons_of_ne_nil hne
  intro hhead
  have hc := hw c List.mem_cons_self
  rw [Option.some.inj hhead] at hc
  exact absurd hc (by decide)

/-- No plain expression starts with an equals sign. -/
theorem head?_infixText_ne (h : e.IsPlain) (r : List Char) :
    (e.infixText.toList ++ r).head? ≠ some '=' := by
  have hoperand : e.style = none → (e.infixText.toList ++ r).head? ≠ some '=' := by
    intro hstyle
    obtain ⟨hne, hall⟩ := h.word_of_operand hstyle
    exact head?_word_ne (fun hnil => hne (String.toList_inj.1 hnil)) hall r
  cases h with
  | named _ => exact hoperand rfl
  | number _ _ => exact hoperand rfl
  | infixed hop htwo hes =>
    rw [toList_infixed hop htwo hes]
    simp
  | @application fn es hfn hne hes =>
    have hall : ∀ fn ∈ calledFunctions, fn.toList ≠ [] ∧ fn.toList.all isIdentifierChar = true := by
      decide
    rw [toList_application hfn hne hes]
    exact head?_word_ne (hall fn hfn).1 (List.all_eq_true.1 (hall fn hfn).2) _
  | negation he =>
    rw [toList_negation he]
    simp

/-! ## Operators between operands -/

/-- The operator that a text starts with. -/
def readOperator : List Char → List Char
  | m :: '=' :: _ => [m, '=']
  | m :: _ => [m]
  | [] => []

/-- An operator is read in front of whatever does not start with an equals sign. -/
theorem readOperator_append {op : String} (hop : op ∈ infixOperators) {t : List Char}
    (ht : t.head? ≠ some '=') : readOperator (op.toList ++ t) = op.toList := by
  have hshape : ∀ op ∈ infixOperators,
      op.toList ≠ [] ∧ (op.toList.tail = [] ∨ op.toList.tail = ['=']) := by decide
  have hone : ∀ m : Char, readOperator (m :: t) = [m] := by
    intro m
    unfold readOperator
    split
    next heq =>
      rw [(List.cons.inj heq).2] at ht
      exact absurd rfl ht
    next heq => rw [(List.cons.inj heq).1]
    next heq => exact absurd heq (by simp)
  obtain ⟨hne, htail⟩ := hshape op hop
  obtain ⟨m, more, hm⟩ := List.exists_cons_of_ne_nil hne
  rw [hm, List.tail_cons] at htail
  rw [hm]
  rcases htail with rfl | rfl
  · exact hone m
  · rfl

/-- The operator in front of an operand is known from the text. -/
theorem operator_injective {op op' : String} (hop : op ∈ infixOperators)
    (hop' : op' ∈ infixOperators) (he : e.IsPlain) (hf : f.IsPlain) {r s : List Char}
    (h : op.toList ++ (e.infixText.toList ++ r) = op'.toList ++ (f.infixText.toList ++ s)) :
    op = op' := by
  have hread := congrArg readOperator h
  rw [readOperator_append hop (he.head?_infixText_ne r),
    readOperator_append hop' (hf.head?_infixText_ne s)] at hread
  exact String.toList_inj.1 hread

theorem isSeparator_operator {op : String} (hop : op ∈ infixOperators) :
    IsSeparator Behind ')' op := by
  have hmark : ∀ op ∈ infixOperators, op.toList.head?.any
      (fun m => m != ')' && !isIdentifierChar m && m != '(') = true := by decide
  have hhead := hmark op hop
  cases hchars : op.toList with
  | nil =>
    rw [hchars] at hhead
    exact absurd hhead (by decide)
  | cons m mark =>
    rw [hchars, List.head?_cons, Option.any_some, Bool.and_eq_true, Bool.and_eq_true,
      bne_iff_ne, bne_iff_ne, Bool.not_eq_true'] at hhead
    obtain ⟨⟨hclose, hword⟩, hopen⟩ := hhead
    exact ⟨m, mark, hchars, hclose, ends_cons ⟨hword, hopen⟩⟩

theorem isSeparator_comma : IsSeparator Behind ')' "," :=
  ⟨',', [], rfl, by decide, ends_cons (by decide)⟩

theorem behind_close : ∀ r, Behind (')' :: r) := ends_cons (by decide)

/-! ## Plain expressions from their texts -/

/-- The operand that a word stands for: a number if it starts with a digit. -/
def operandOf (word : String) : MathExpr :=
  if word.toList.head?.any Char.isDigit then { constant := { typeId := 4, value := .string word } }
  else { variableName := word }

theorem operandOf_infixText (h : e.IsPlain) (hstyle : e.style = none) :
    operandOf e.infixText = e := by
  unfold operandOf
  rcases h.infixText_of_operand hstyle with
    ⟨name, hname, rfl, htext⟩ | ⟨digits, hdigits, rfl, htext⟩
  · obtain ⟨c, cs, hchars, hstart, -⟩ := hname
    have hdigit : name.toList.head?.any Char.isDigit = false := by
      rw [hchars]
      exact not_isDigit_of_isIdentifierStart hstart
    rw [htext, hdigit, if_neg Bool.false_ne_true]
  · have hdigit : digits.toList.head?.any Char.isDigit = true := by
      obtain ⟨hne, hall⟩ := hdigits
      cases hchars : digits.toList with
      | nil => exact absurd (String.toList_inj.1 hchars) hne
      | cons c cs => exact hall c (by rw [hchars]; exact List.mem_cons_self)
    rw [htext, hdigit, if_pos rfl]

/-- An operand is known from its text. -/
theorem operand_cuts (he : e.IsPlain) (hf : f.IsPlain) (hstyle : e.style = none)
    (hstyle' : f.style = none) : Cuts infixText Behind e f := by
  intro r s hr hs heq
  obtain ⟨hword, hrest⟩ := cut (he.word_of_operand hstyle).2 (hf.word_of_operand hstyle').2
    (fun c hc => (hr c hc).1) (fun c hc => (hs c hc).1) heq
  refine ⟨?_, hrest⟩
  rw [← he.operandOf_infixText hstyle, String.toList_inj.1 hword, hf.operandOf_infixText hstyle']

/-- Expressions whose texts are the same up to what stands behind them have one style. -/
theorem style_eq (he : e.IsPlain) (hf : f.IsPlain) {r s : List Char} (hr : Behind r)
    (hs : Behind s) (heq : e.infixText.toList ++ r = f.infixText.toList ++ s) :
    e.style = f.style := by
  rw [← he.readStyle_eq hr, heq, hf.readStyle_eq hs]

/-- **A plain expression is known from its text**, if nothing behind it goes on with a word or
makes it a call. -/
theorem cuts (he : e.IsPlain) : ∀ {f}, f.IsPlain → Cuts infixText Behind e f := by
  induction he with
  | named h =>
    intro f hf r s hr hs heq
    have he := named h
    exact he.operand_cuts hf rfl (he.style_eq hf hr hs heq).symm r s hr hs heq
  | number hne h =>
    intro f hf r s hr hs heq
    have he := number hne h
    exact he.operand_cuts hf rfl (he.style_eq hf hr hs heq).symm r s hr hs heq
  | infixed hop htwo hes ih =>
    intro f hf r s hr hs heq
    have hstyle := (infixed hop htwo hes).style_eq hf hr hs heq
    rw [style_infixed hop] at hstyle
    obtain ⟨op', fs, rfl, hop', htwo', hfs⟩ := hf.exists_infixed hstyle.symm
    rw [toList_infixed hop htwo hes, toList_infixed hop' htwo' hfs] at heq
    obtain ⟨rfl, rfl, rfl⟩ := infix_cut_of_cuts (isSeparator_operator hop)
      (isSeparator_operator hop') behind_close htwo htwo' (fun e he f hf => ih e he (hfs f hf))
      (fun e he f hf _ _ => operator_injective hop hop' (hes e he) (hfs f hf)) (List.cons.inj heq).2
    exact ⟨rfl, rfl⟩
  | application hfn hne hes ih =>
    intro f hf r s hr hs heq
    have hstyle := (application hfn hne hes).style_eq hf hr hs heq
    rw [style_application hfn] at hstyle
    obtain ⟨fs, rfl, hne', hfs⟩ := hf.exists_application hstyle.symm
    rw [toList_application hfn hne hes, toList_application hfn hne' hfs] at heq
    obtain ⟨rfl, rfl⟩ := join_cut_of_cuts isSeparator_comma behind_close hne hne'
      (fun e he f hf => ih e he (hfs f hf)) (List.cons.inj (List.append_cancel_left heq)).2
    exact ⟨rfl, rfl⟩
  | negation he ih =>
    intro f hf r s hr hs heq
    obtain ⟨g, rfl, hg⟩ := hf.exists_negation ((negation he).style_eq hf hr hs heq).symm
    rw [toList_negation he, toList_negation hg] at heq
    obtain ⟨rfl, rfl⟩ := ih hg r s hr hs (List.cons.inj heq).2
    exact ⟨rfl, rfl⟩

/-! ## Brackets around the whole -/

theorem behind_nil : Behind [] := fun _ h => absurd h (by simp)

/-- No plain expression is another one in brackets: with these taken away there would be
operands left behind the first one. -/
theorem infixText_ne_bracketed (he : e.IsPlain) (hf : f.IsPlain) :
    e.infixText ≠ "(" ++ f.infixText ++ ")" := by
  intro heq
  have hchars : e.infixText.toList ++ [] = '(' :: (f.infixText.toList ++ [')']) := by
    rw [heq]
    simp
  have hstyle : e.style = some .infixed := by
    rw [← he.readStyle_eq behind_nil, hchars]
    exact congrArg readStyle (opening_word (w := []) (by simp) (by decide) _)
  obtain ⟨op, es, rfl, hop, htwo, hes⟩ := he.exists_infixed hstyle
  rw [toList_infixed hop htwo hes] at hchars
  match es, htwo with
  | x :: y :: es, _ =>
    have hinside := List.append_cancel_right (List.cons.inj hchars).2
    obtain ⟨m, mark, hmark, -, hm⟩ := isSeparator_operator hop
    rw [List.map_cons, List.map_cons, toList_join_cons, following_cons, hmark,
      ← List.append_nil f.infixText.toList] at hinside
    obtain ⟨-, hrest⟩ := (hes x List.mem_cons_self).cuts hf _ _ (hm _) behind_nil hinside
    exact absurd hrest (by simp)

end IsPlain

/-- **Plain expressions with the same text are the same**, and each of them has a text. -/
theorem expr_eq_of_render_eq {e f : MathExpr} (he : e.IsPlain) (hf : f.IsPlain)
    (node node' : String) :
    (∃ text, e.render node = .ok text) ∧ (e.render node = f.render node' → e = f) := by
  have hrender : ∀ {g : MathExpr}, g.IsPlain → ∀ node, g.render node
      = .ok ("math" ++ bracket g.infixText) := by
    intro g hg node
    rw [render_eq, hg.toInfix_eq node]
    rfl
  refine ⟨⟨_, hrender he node⟩, fun heq => ?_⟩
  rw [hrender he, hrender hf, Except.ok.injEq, String.append_right_inj, bracket_eq_iff] at heq
  rcases heq with hsame | ⟨hbracketed, -⟩ | ⟨hbracketed, -⟩
  · have hchars : e.infixText.toList ++ [] = f.infixText.toList ++ [] := by rw [hsame]
    exact (he.cuts hf [] [] IsPlain.behind_nil IsPlain.behind_nil hchars).1
  · exact absurd hbracketed (he.infixText_ne_bracketed hf)
  · exact absurd hbracketed (hf.infixText_ne_bracketed he)

/-- A difference, or a comparison, of a variable and the negative of another one. -/
def negated (op : String) : MathExpr where
  fn := op
  operands := [{ variableName := "a" }, { fn := "u-", operands := [{ variableName := "b" }] },
    { fn := "max", operands := [{ constant := { typeId := 4, value := .string "10" } }] }]

theorem isPlain_negated {op : String} (hop : op ∈ infixOperators) : (negated op).IsPlain := by
  refine .infixed hop (by simp) (List.forall_mem_cons.2 ⟨.named (by decide),
    List.forall_mem_cons.2 ⟨.negation (.named (by decide)), List.forall_mem_singleton.2 ?_⟩⟩)
  exact .application (by decide) (by simp) (List.forall_mem_singleton.2
    (.number (by decide) (List.all_eq_true.1 (by decide))))

/-- Two minus signs in a row, or one behind a comparison, are not taken for another operator. -/
theorem expr_eq_of_render_eq_negated :
    (((negated "-").IsPlain ∧ (negated "<").IsPlain) ∧ (negated "<=").IsPlain) ∧
      (∃ text, (negated "<").render "d" = .ok text) ∧
      (negated "<").render "d" ≠ (negated "-").render "d" ∧
      (negated "<").render "d" ≠ (negated "<=").render "d" := by
  have hminus : (negated "-").IsPlain := isPlain_negated (by decide)
  have hless : (negated "<").IsPlain := isPlain_negated (by decide)
  have hatMost : (negated "<=").IsPlain := isPlain_negated (by decide)
  obtain ⟨htext, hsame⟩ := expr_eq_of_render_eq hless hminus "d" "d"
  refine ⟨⟨⟨hminus, hless⟩, hatMost⟩, htext, fun heq => ?_, fun heq => ?_⟩
  · exact absurd (congrArg MathExpr.fn (hsame heq)) (by decide)
  · exact absurd (congrArg MathExpr.fn ((expr_eq_of_render_eq hless hatMost "d" "d").2 heq))
      (by decide)

end MathExpr

end Dql
