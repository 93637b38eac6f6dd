import Dql.Proofs.Render.CallText
import Dql.Proofs.Render.LookupPart
import Dql.Proofs.Text.Literal

/-!
# The text of a filter is unambiguous

Two plain filters with the same text are the same (`Filter.eq_of_render_eq`). A filter is plain
if its leaves compare an attribute with literals and its connectives are `and` and `or` over two
or more operands and `not` over one (`Filter.IsPlain`); the literals may be any texts.

The proof takes a text apart from left to right. A leaf is known from its text, whatever stands
behind it (`Call.leafText_cut`): names end where no identifier goes on, and a literal is closed
by no character of its own. A connective is told from a leaf by the word that the text starts
with and the character behind it, and `and` from `or` behind the first operand. So a filter is
known from its text and what stands behind it together (`Filter.IsPlain.cuts`, by the tree).
-/

namespace Dql

open Text

/-! ## Leaves -/

namespace Call

/-- An argument that is written as a literal. -/
def IsLiteral (a : Argument) : Prop := a.isValueVariable = false ∧ a.isRequestVariable = false

/-- A leaf that compares an attribute, or the count of it, with literals. -/
structure IsPlainLeaf (c : Call) : Prop where
  name : IsIdentifier c.name
  name_ne : c.name ≠ "regexp"
  attr : IsIdentifier c.attr
  arguments_ne : c.arguments ≠ []
  arguments : ∀ a ∈ c.arguments, IsLiteral a
  /-- A language is written for an attribute that is not counted. -/
  lang : c.lang = "" ∨ IsIdentifier c.lang ∧ c.isCount = false
  isValueVariable : c.isValueVariable = false
  ids : c.ids = []
  uses : c.uses = []

variable {c c' : Call}

/-- What a plain leaf compares. -/
def subject (c : Call) : String :=
  if c.isCount then Render.application "count" c.attr else c.attr ++ Render.language c.lang

/-- The text of a plain leaf. -/
def leafText (c : Call) : String :=
  Render.application c.name
    (c.subject ++ ", " ++ join ", " (c.arguments.map fun a => quote a.value))

theorem renderLeaf_of_isPlainLeaf (h : c.IsPlainLeaf) (node : String) :
    c.renderLeaf node = .ok c.leafText := by
  have harguments : Render.arguments? c
      = some (join ", " (c.arguments.map fun a => quote a.value)) := by
    have hliterals : c.arguments.map (Render.argument false)
        = c.arguments.map fun a => quote a.value := by
      refine List.map_congr_left fun a ha => ?_
      rw [Render.argument_eq, (h.arguments a ha).1, (h.arguments a ha).2]
      rfl
    rw [← hliterals]
    rw [Render.arguments?_eq]
    cases hargs : c.arguments with
    | nil => exact absurd hargs h.arguments_ne
    | cons first rest =>
      dsimp only
      rw [if_neg h.name_ne, h.isValueVariable]
  have hattr : c.leafAttribute = c.attr := by
    rw [leafAttribute_eq_iff.2 h.isValueVariable, Clause.attributeText_of_isIdentifier h.attr]
  rw [renderLeaf_of_arguments h.attr.ne_empty harguments, hattr]
  unfold leafText subject
  split <;> rfl

theorem toList_leafText (c : Call) (r : List Char) :
    c.leafText.toList ++ r = c.name.toList ++ '(' :: (c.subject.toList ++ ',' :: ' ' ::
      ((join ", " (c.arguments.map fun a => quote a.value)).toList ++ ')' :: r)) := by
  unfold leafText Render.application
  simp only [String.toList_append, List.append_assoc]
  rfl

/-- The language of an attribute is known from its text, in front of a comma. -/
theorem language_cut {lang lang' : String} (h : lang = "" ∨ IsIdentifier lang)
    (h' : lang' = "" ∨ IsIdentifier lang') {r s : List Char}
    (heq : (Render.language lang).toList ++ ',' :: r = (Render.language lang').toList ++ ',' :: s) :
    lang = lang' ∧ r = s := by
  have hsome : ∀ {l : String}, IsIdentifier l → ∀ t : List Char,
      (Render.language l).toList ++ t = '@' :: (l.toList ++ t) := by
    intro l hl t
    rw [Render.language_eq]
    unfold unlessEmpty
    rw [if_neg (by simpa using hl.ne_empty), String.toList_append]
    rfl
  rcases h with rfl | h
  · rcases h' with rfl | h'
    · exact ⟨rfl, (List.cons.inj heq).2⟩
    · rw [hsome h'] at heq
      exact absurd (List.cons.inj heq).1 (by decide)
  · rw [hsome h] at heq
    rcases h' with rfl | h'
    · exact absurd (List.cons.inj heq).1 (by decide)
    · rw [hsome h'] at heq
      obtain ⟨hlang, hrest⟩ := cut h.all h'.all (head?_cons_of_eq_false (by decide) _)
        (head?_cons_of_eq_false (by decide) _)
        (List.cons.inj heq).2
      exact ⟨String.toList_inj.1 hlang, (List.cons.inj hrest).2⟩

/-- Behind an attribute that is not counted stands its language or a comma. -/
theorem head?_language (lang : String) (r : List Char) :
    ∀ d ∈ ((Render.language lang).toList ++ ',' :: r).head?, d = '@' ∨ d = ',' := by
  intro d hd
  rw [Render.language_eq] at hd
  unfold unlessEmpty at hd
  split at hd
  · exact .inr (Option.some.inj hd).symm
  · rw [String.toList_append] at hd
    exact .inl (Option.some.inj hd).symm

theorem not_isIdentifierChar_language (lang : String) (r : List Char) :
    ∀ d ∈ ((Render.language lang).toList ++ ',' :: r).head?, isIdentifierChar d = false := by
  intro d hd
  rcases head?_language lang r d hd with rfl | rfl <;> decide

theorem subject_of_isCount (h : c.isCount = true) (r : List Char) :
    c.subject.toList ++ r = "count".toList ++ '(' :: (c.attr.toList ++ ')' :: r) := by
  unfold subject Render.application
  rw [if_pos h]
  simp only [String.toList_append, List.append_assoc]
  rfl

theorem subject_of_not_isCount (h : c.isCount = false) (r : List Char) :
    c.subject.toList ++ r = c.attr.toList ++ ((Render.language c.lang).toList ++ r) := by
  unfold subject
  rw [h, if_neg Bool.false_ne_true, String.toList_append, List.append_assoc]

/-- Attribute and count cannot be taken for one another. -/
theorem subject_isCount_ne (h : c.isCount = true) (h' : c'.isCount = false)
    (hattr' : IsIdentifier c'.attr) (r s : List Char) :
    c.subject.toList ++ r ≠ c'.subject.toList ++ ',' :: s := by
  intro heq
  rw [subject_of_isCount h, subject_of_not_isCount h'] at heq
  obtain ⟨-, hrest⟩ := cut (List.all_eq_true.1 (by decide)) hattr'.all
    (head?_cons_of_eq_false (by decide) _) (not_isIdentifierChar_language c'.lang s) heq
  have hbehind := head?_language c'.lang s
  rw [← hrest] at hbehind
  exact absurd (hbehind '(' rfl) (by decide)

/-- What a plain leaf compares is known from the text. -/
theorem subject_cut (h : c.IsPlainLeaf) (h' : c'.IsPlainLeaf) {r s : List Char}
    (heq : c.subject.toList ++ ',' :: r = c'.subject.toList ++ ',' :: s) :
    (c.attr = c'.attr ∧ c.lang = c'.lang ∧ c.isCount = c'.isCount) ∧ r = s := by
  have hplain : ∀ {d : Call}, d.IsPlainLeaf → d.lang = "" ∨ IsIdentifier d.lang :=
    fun hd => hd.lang.imp_right And.left
  have hcounted : ∀ {d : Call}, d.IsPlainLeaf → d.isCount = true → d.lang = "" := by
    intro d hd hcount
    rcases hd.lang with hlang | ⟨-, hnone⟩
    · exact hlang
    · rw [hcount] at hnone
      exact absurd hnone (by decide)
  cases hcount : c.isCount with
  | true =>
    cases hcount' : c'.isCount with
    | true =>
      rw [subject_of_isCount hcount, subject_of_isCount hcount'] at heq
      obtain ⟨hattr, hrest⟩ := cut h.attr.all h'.attr.all (head?_cons_of_eq_false (by decide) _)
        (head?_cons_of_eq_false (by decide) _)
        (List.cons.inj (List.append_cancel_left heq)).2
      refine ⟨⟨String.toList_inj.1 hattr, ?_, rfl⟩, ?_⟩
      · rw [hcounted h hcount, hcounted h' hcount']
      · exact (List.cons.inj (List.cons.inj hrest).2).2
    | false => exact absurd heq (subject_isCount_ne hcount hcount' h'.attr _ s)
  | false =>
    cases hcount' : c'.isCount with
    | true => exact absurd heq.symm (subject_isCount_ne hcount' hcount h.attr _ r)
    | false =>
      rw [subject_of_not_isCount hcount, subject_of_not_isCount hcount'] at heq
      obtain ⟨hattr, hrest⟩ := cut h.attr.all h'.attr.all
        (not_isIdentifierChar_language c.lang r) (not_isIdentifierChar_language c'.lang s) heq
      obtain ⟨hlang, hbehind⟩ := language_cut (hplain h) (hplain h') hrest
      exact ⟨⟨String.toList_inj.1 hattr, hlang, rfl⟩, hbehind⟩

/-- The arguments of a plain leaf are known from the text. -/
theorem literals_cut (h : c.IsPlainLeaf) (h' : c'.IsPlainLeaf) {r s : List Char}
    (heq : (join ", " (c.arguments.map fun a => quote a.value)).toList ++ ')' :: r
      = (join ", " (c'.arguments.map fun a => quote a.value)).toList ++ ')' :: s) :
    c.arguments = c'.arguments ∧ r = s := by
  have hsep : IsSeparator (fun _ => True) ')' ", " := ⟨',', [' '], rfl, by decide, fun _ => trivial⟩
  refine join_cut_of_cuts hsep (fun _ => trivial) h.arguments_ne h'.arguments_ne ?_ heq
  intro a ha b hb r s _ _ hliteral
  obtain ⟨hvalue, hrest⟩ := quote_cut hliteral
  refine ⟨?_, hrest⟩
  obtain ⟨value, isValueVariable, isRequestVariable⟩ := a
  obtain ⟨value', isValueVariable', isRequestVariable'⟩ := b
  obtain ⟨rfl, rfl⟩ := h.arguments _ ha
  obtain ⟨rfl, rfl⟩ := h'.arguments _ hb
  rw [show value = value' from hvalue]

/-- **A plain leaf is known from its text**, whatever stands behind it. -/
theorem leafText_cut (h : c.IsPlainLeaf) (h' : c'.IsPlainLeaf) {r s : List Char}
    (heq : c.leafText.toList ++ r = c'.leafText.toList ++ s) : c = c' ∧ r = s := by
  rw [toList_leafText, toList_leafText] at heq
  obtain ⟨hname, hinside⟩ := cut h.name.all h'.name.all (head?_cons_of_eq_false (by decide) _)
        (head?_cons_of_eq_false (by decide) _) heq
  obtain ⟨⟨hattr, hlang, hcount⟩, hbehind⟩ := subject_cut h h' (List.cons.inj hinside).2
  obtain ⟨harguments, hrest⟩ := literals_cut h h' (List.cons.inj hbehind).2
  refine ⟨?_, hrest⟩
  obtain ⟨attr, lang, name, arguments, ids, uses, isCount, isValueVariable⟩ := c
  obtain ⟨attr', lang', name', arguments', ids', uses', isCount', isValueVariable'⟩ := c'
  simp only [Call.mk.injEq]
  exact ⟨hattr, hlang, String.toList_inj.1 hname, harguments, h.ids.trans h'.ids.symm,
    h.uses.trans h'.uses.symm, hcount, h.isValueVariable.trans h'.isValueVariable.symm⟩

end Call

/-! ## Filters -/

namespace Filter

/-- A filter over plain leaves, in which `and` and `or` stand between two operands or more and
`not` in front of one. -/
inductive IsPlain : Filter → Prop where
  | leaf {c : Call} (h : c.IsPlainLeaf) : IsPlain { call := some c }
  | negation {f : Filter} (h : IsPlain f) : IsPlain { op := "not", operands := [f] }
  | connective {op : String} {fs : List Filter} (hop : op = "and" ∨ op = "or")
      (htwo : 2 ≤ fs.length) (h : ∀ f ∈ fs, IsPlain f) : IsPlain { op := op, operands := fs }

/-- The text of a filter; empty if it has none. -/
def text (f : Filter) : String := (f.render "").toOption.getD ""

theorem text_eq_of_render {f : Filter} {t : String} (h : f.render "" = .ok t) :
    f.text = t := by
  unfold text
  rw [h]
  rfl

theorem renderAll_eq_of_forall {node : String} {fs : List Filter}
    (h : ∀ f ∈ fs, f.render node = .ok f.text) : renderAll node fs = .ok (fs.map text) := by
  induction fs with
  | nil => rfl
  | cons f fs ih =>
    rw [List.forall_mem_cons] at h
    rw [renderAll_cons, h.1, ih h.2]
    rfl

theorem render_leaf_of_isPlain {c : Call} (h : c.IsPlainLeaf) (node : String) :
    render node { call := some c } = .ok c.leafText := by
  rw [render_leaf]
  exact c.renderLeaf_of_isPlainLeaf h node

theorem render_connective_of_forall {node op : String} {fs : List Filter} (hop : op ≠ "")
    (hfs : fs ≠ []) (h : ∀ f ∈ fs, f.render node = .ok f.text) :
    render node { op := op, operands := fs } = .ok (connect op (fs.map text)) := by
  rw [render_connective, if_neg (by simpa using hop), if_neg (by simpa using hfs),
    renderAll_eq_of_forall h]
  rfl

theorem connect_of_and_or {op : String} (hop : op = "and" ∨ op = "or") (texts : List String) :
    connect op texts = "(" ++ join (" " ++ op ++ " ") texts ++ ")" := by
  unfold connect
  rw [if_neg]
  rcases hop with rfl | rfl <;> decide

theorem op_ne_of_and_or {op : String} (hop : op = "and" ∨ op = "or") : op ≠ "" := by
  rcases hop with rfl | rfl <;> decide

namespace IsPlain

variable {f g : Filter}

/-- A plain filter has a text, under whatever name faults would be reported. -/
theorem render_eq (h : f.IsPlain) : ∀ node, f.render node = .ok f.text := by
  induction h with
  | leaf h =>
    intro node
    rw [text_eq_of_render (render_leaf_of_isPlain h ""), render_leaf_of_isPlain h node]
  | @negation f _ ih =>
    have hall : ∀ node, ∀ g ∈ [f], g.render node = .ok g.text := fun node =>
      List.forall_mem_singleton.2 (ih node)
    intro node
    rw [text_eq_of_render (render_connective_of_forall (by decide) (by simp) (hall "")),
      render_connective_of_forall (by decide) (by simp) (hall node)]
  | @connective op fs hop htwo _ ih =>
    have hne : fs ≠ [] := List.ne_nil_of_length_pos (by omega)
    intro node
    rw [text_eq_of_render
        (render_connective_of_forall (op_ne_of_and_or hop) hne fun f hf => ih f hf ""),
      render_connective_of_forall (op_ne_of_and_or hop) hne fun f hf => ih f hf node]

/-! ### Texts -/

theorem text_leaf {c : Call} (h : c.IsPlainLeaf) :
    text { call := some c } = c.leafText :=
  text_eq_of_render (render_leaf_of_isPlain h "")

theorem toList_text_negation (h : f.IsPlain) (r : List Char) :
    (text { op := "not", operands := [f] }).toList ++ r
      = "not".toList ++ ' ' :: '(' :: (f.text.toList ++ ')' :: r) := by
  have hall : ∀ g ∈ [f], g.render "" = .ok g.text := List.forall_mem_singleton.2 (h.render_eq "")
  rw [text_eq_of_render (render_connective_of_forall (by decide) (by simp) hall)]
  show ("not" ++ " (" ++ f.text ++ ")").toList ++ r = _
  simp only [String.toList_append, List.append_assoc]
  rfl

theorem toList_text_connective {op : String} {fs : List Filter}
    (hop : op = "and" ∨ op = "or") (htwo : 2 ≤ fs.length) (h : ∀ f ∈ fs, f.IsPlain)
    (r : List Char) :
    (text { op := op, operands := fs }).toList ++ r
      = '(' :: ((join (" " ++ op ++ " ") (fs.map text)).toList ++ ')' :: r) := by
  rw [text_eq_of_render (render_connective_of_forall (op_ne_of_and_or hop)
    (List.ne_nil_of_length_pos (by omega)) fun f hf => (h f hf).render_eq ""),
    connect_of_and_or hop]
  simp only [String.toList_append, List.append_assoc]
  rfl

/-! ### Which kind of filter a text is of -/

theorem opening_leaf {c : Call} (h : c.IsPlainLeaf) (r : List Char) :
    opening ((text { call := some c }).toList ++ r) = (c.name.toList, some '(') := by
  rw [text_leaf h, Call.toList_leafText]
  exact opening_word h.name.all (by decide) _

theorem opening_negation (h : f.IsPlain) (r : List Char) :
    opening ((text { op := "not", operands := [f] }).toList ++ r) = ("not".toList, some ' ') := by
  rw [toList_text_negation h]
  exact opening_word (List.all_eq_true.1 (by decide)) (by decide) _

theorem opening_connective {op : String} {fs : List Filter}
    (hop : op = "and" ∨ op = "or") (htwo : 2 ≤ fs.length) (h : ∀ f ∈ fs, f.IsPlain)
    (r : List Char) :
    opening ((text { op := op, operands := fs }).toList ++ r) = ([], some '(') := by
  rw [toList_text_connective hop htwo h]
  exact opening_word (w := []) (by simp) (by decide) _

/-- A filter whose text starts with a word and a bracket is a leaf. -/
theorem exists_leaf (hg : g.IsPlain) {w s : List Char} (hw : w ≠ [])
    (h : opening (g.text.toList ++ s) = (w, some '(')) :
    ∃ c, g = { call := some c } ∧ c.IsPlainLeaf := by
  cases hg with
  | leaf hc => exact ⟨_, rfl, hc⟩
  | negation hg =>
    rw [opening_negation hg] at h
    exact absurd (Prod.mk.inj h).2 (by decide)
  | connective hop htwo hgs =>
    rw [opening_connective hop htwo hgs] at h
    exact absurd (Prod.mk.inj h).1.symm hw

/-- A filter whose text starts with a word and a blank is a negation. -/
theorem exists_negation (hg : g.IsPlain) {w s : List Char}
    (h : opening (g.text.toList ++ s) = (w, some ' ')) :
    ∃ f, g = { op := "not", operands := [f] } ∧ f.IsPlain := by
  cases hg with
  | leaf hc =>
    rw [opening_leaf hc] at h
    exact absurd (Prod.mk.inj h).2 (by decide)
  | negation hg => exact ⟨_, rfl, hg⟩
  | connective hop htwo hgs =>
    rw [opening_connective hop htwo hgs] at h
    exact absurd (Prod.mk.inj h).2 (by decide)

/-- A filter whose text starts with a bracket is a connective. -/
theorem exists_connective (hg : g.IsPlain) {s : List Char}
    (h : opening (g.text.toList ++ s) = ([], some '(')) :
    ∃ op fs, g = { op := op, operands := fs } ∧ (op = "and" ∨ op = "or") ∧ 2 ≤ fs.length ∧
      ∀ f ∈ fs, f.IsPlain := by
  cases hg with
  | leaf hc =>
    rw [opening_leaf hc] at h
    exact absurd (String.toList_inj.1 (Prod.mk.inj h).1) hc.name.ne_empty
  | negation hg =>
    rw [opening_negation hg] at h
    exact absurd (Prod.mk.inj h).1 (by decide)
  | connective hop htwo hgs => exact ⟨_, _, rfl, hop, htwo, hgs⟩

/-! ### Connectives -/

theorem isSeparator_word (op : String) :
    IsSeparator (fun _ => True) ')' (" " ++ op ++ " ") := by
  refine ⟨' ', op.toList ++ [' '], ?_, by decide, fun _ => trivial⟩
  simp only [String.toList_append, List.append_assoc]
  rfl

/-- The operator between two filters is a word, so it is known from the text. -/
theorem infix_injective {op op' : String} (hop : op = "and" ∨ op = "or")
    (hop' : op' = "and" ∨ op' = "or") {r s : List Char}
    (h : (" " ++ op ++ " ").toList ++ r = (" " ++ op' ++ " ").toList ++ s) : op = op' := by
  have hword : ∀ {op : String}, op = "and" ∨ op = "or" →
      ∀ c ∈ op.toList, isIdentifierChar c = true := by
    rintro op (rfl | rfl)
    · exact List.all_eq_true.1 (by decide)
    · exact List.all_eq_true.1 (by decide)
  have hchars : ∀ (op : String) (r : List Char),
      (" " ++ op ++ " ").toList ++ r = ' ' :: (op.toList ++ ' ' :: r) := by
    intro op r
    simp only [String.toList_append, List.append_assoc]
    rfl
  rw [hchars, hchars] at h
  obtain ⟨hsame, -⟩ := cut (hword hop) (hword hop') (head?_cons_of_eq_false (by decide) _)
    (head?_cons_of_eq_false (by decide) _) (List.cons.inj h).2
  exact String.toList_inj.1 hsame

/-! ### Filters -/

/-- **A plain filter is known from its text**, whatever stands behind it. -/
theorem cuts (hf : f.IsPlain) : ∀ {g}, g.IsPlain → Cuts text (fun _ => True) f g := by
  induction hf with
  | @leaf c hc =>
    intro g hg r s _ _ heq
    have hopening := congrArg opening heq
    rw [opening_leaf hc] at hopening
    have hword : c.name.toList ≠ [] := fun hnil => hc.name.ne_empty (String.toList_inj.1 hnil)
    obtain ⟨c', rfl, hc'⟩ := hg.exists_leaf hword hopening.symm
    rw [text_leaf hc, text_leaf hc'] at heq
    obtain ⟨rfl, rfl⟩ := Call.leafText_cut hc hc' heq
    exact ⟨rfl, rfl⟩
  | negation hf ih =>
    intro g hg r s _ _ heq
    have hopening := congrArg opening heq
    rw [opening_negation hf] at hopening
    obtain ⟨f', rfl, hf'⟩ := hg.exists_negation hopening.symm
    rw [toList_text_negation hf, toList_text_negation hf'] at heq
    have hinside := (List.cons.inj (List.cons.inj (List.append_cancel_left heq)).2).2
    obtain ⟨rfl, hrest⟩ := ih hf' _ _ trivial trivial hinside
    exact ⟨rfl, (List.cons.inj hrest).2⟩
  | connective hop htwo hfs ih =>
    intro g hg r s _ _ heq
    have hopening := congrArg opening heq
    rw [opening_connective hop htwo hfs] at hopening
    obtain ⟨op', gs, rfl, hop', htwo', hgs⟩ := hg.exists_connective hopening.symm
    rw [toList_text_connective hop htwo hfs, toList_text_connective hop' htwo' hgs] at heq
    obtain ⟨hsep, rfl, rfl⟩ := infix_cut_of_cuts (isSeparator_word _) (isSeparator_word _)
      (fun _ => trivial) htwo htwo' (fun f hf g hg => ih f hf (hgs g hg))
      (fun _ _ _ _ _ _ h => congrArg (" " ++ · ++ " ") (infix_injective hop hop' h))
      (List.cons.inj heq).2
    have hops := infix_injective hop hop' (congrArg (fun sep => sep.toList ++ []) hsep)
    rw [hops]
    exact ⟨rfl, rfl⟩

end IsPlain

/-- **Plain filters with the same text are the same**, and each of them has a text. -/
theorem eq_of_render_eq {f g : Filter} (hf : f.IsPlain) (hg : g.IsPlain)
    (node node' : String) :
    (∃ text, f.render node = .ok text) ∧ (f.render node = g.render node' → f = g) := by
  refine ⟨⟨_, hf.render_eq node⟩, fun heq => ?_⟩
  rw [hf.render_eq, hg.render_eq] at heq
  have htext : f.text.toList ++ [] = g.text.toList ++ [] := by rw [Except.ok.inj heq]
  exact (hf.cuts hg [] [] trivial trivial htext).1

/-- A comparison of an attribute with literals. -/
def comparing (name attr : String) (values : List String) : Filter where
  call := some { name := name, attr := attr, arguments := values.map fun v => { value := v } }

theorem isPlain_comparing {name attr : String} {values : List String} (hname : IsIdentifier name)
    (hne : name ≠ "regexp") (hattr : IsIdentifier attr) (hvalues : values ≠ []) :
    (comparing name attr values).IsPlain := by
  refine .leaf {
    name := hname, name_ne := hne, attr := hattr, arguments_ne := by simpa using hvalues
    arguments := ?_, lang := .inl rfl, isValueVariable := rfl, ids := rfl, uses := rfl }
  intro a ha
  obtain ⟨v, -, rfl⟩ := List.mem_map.1 ha
  exact ⟨rfl, rfl⟩

/-- Two conditions joined by one operator, and what they make up with a third by another. -/
def grouped (inner outer : String) : Filter where
  op := outer
  operands := [{ op := inner, operands := [comparing "eq" "name" ["a\") or eq(b, \"c"],
    { op := "not", operands := [comparing "eq" "age" ["", "5"]] }] },
    comparing "has" "count" ["x"]]

theorem isPlain_grouped {inner outer : String} (hinner : inner = "and" ∨ inner = "or")
    (houter : outer = "and" ∨ outer = "or") : (grouped inner outer).IsPlain := by
  refine .connective houter (by simp) (List.forall_mem_cons.2 ⟨.connective hinner (by simp) ?_,
    List.forall_mem_singleton.2 ?_⟩)
  · refine List.forall_mem_cons.2 ⟨?_, List.forall_mem_singleton.2 (.negation ?_)⟩
    · exact isPlain_comparing (by decide) (by decide) (by decide) (by simp)
    · exact isPlain_comparing (by decide) (by decide) (by decide) (by simp)
  · exact isPlain_comparing (by decide) (by decide) (by decide) (by simp)

/-- The text shows which operator holds which conditions together, whatever the literals say. -/
theorem eq_of_render_eq_grouped :
    ((grouped "or" "and").IsPlain ∧ (grouped "and" "or").IsPlain) ∧
      (∃ text, (grouped "or" "and").render "me" = .ok text) ∧
      (grouped "or" "and").render "me" ≠ (grouped "and" "or").render "me" := by
  have hor : (grouped "or" "and").IsPlain := isPlain_grouped (.inr rfl) (.inl rfl)
  have hand : (grouped "and" "or").IsPlain := isPlain_grouped (.inl rfl) (.inr rfl)
  obtain ⟨htext, hsame⟩ := eq_of_render_eq hor hand "me" "me"
  refine ⟨⟨hor, hand⟩, htext, fun heq => ?_⟩
  exact absurd (congrArg Filter.op (hsame heq)) (by decide)

end Filter

end Dql
