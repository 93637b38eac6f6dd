import Dql.Proofs.Render.LookupBlock
import Dql.Proofs.Uid

/-!
# The parts of a line of a lookup block

The languages, arguments, orderings and identifiers of a node are lists. Each of them is
known from its text: no part of a list holds the character that comes behind the part
(`Clause.languages_cut`, `Clause.parameters_cut`, `Clause.ids_cut`). Arguments and
orderings share one list, where an ordering is told by its keyword (`Clause.parts_cut`).
-/

namespace Dql

open Text

namespace Clause

/-- Whether a character may stand in an argument or an ordering of a lookup block. -/
def isPartChar (c : Char) : Bool := c != ',' && c != ')'

theorem isPartChar_of_isIdentifierChar {c : Char} (h : isIdentifierChar c = true) :
    isPartChar c = true := by
  have hcode := toNat_of_isIdentifierChar h
  unfold isPartChar
  rw [Bool.and_eq_true, bne_iff_ne, bne_iff_ne]
  refine ⟨?_, ?_⟩
  · rintro rfl
    exact absurd hcode (by decide)
  · rintro rfl
    exact absurd hcode (by decide)

theorem isPartChar_colon : ∀ c ∈ ": ".toList, isPartChar c = true := List.all_eq_true.1 (by decide)

/-- An argument or an ordering: not empty, without the characters that end it, and with no
other blanks than single spaces. -/
structure IsPart (t : String) : Prop where
  ne_empty : t ≠ ""
  all : ∀ c ∈ t.toList, isPartChar c = true
  spacing : spacing true t.toList = some false

theorem ne_empty_of_spacing {t : String} (h : spacing true t.toList = some false) : t ≠ "" := by
  rintro rfl
  exact absurd h (by decide)

theorem isPart_argument {key value : String} (hkey : IsIdentifier key)
    (hvalue : IsIdentifier value) : IsPart (key ++ ": " ++ value) := by
  have hspacing : Text.spacing true (key ++ ": " ++ value).toList = some false := by
    rw [String.toList_append, String.toList_append, List.append_assoc,
      spacing_append_of_eq_some (hkey.spacing true)]
    exact hvalue.spacing true
  refine ⟨ne_empty_of_spacing hspacing, ?_, hspacing⟩
  rw [String.toList_append, String.toList_append, List.forall_mem_append, List.forall_mem_append]
  exact ⟨⟨fun c hc => isPartChar_of_isIdentifierChar (hkey.all c hc), isPartChar_colon⟩,
    fun c hc => isPartChar_of_isIdentifierChar (hvalue.all c hc)⟩

/-! ## Languages -/

section Languages

variable {langs langs' : List String}

theorem toList_languages_cons (lang : String) (langs : List String) :
    (Render.languages (lang :: langs)).toList = '@' :: (join ":" (lang :: langs)).toList := by
  rw [Render.languages_eq, List.isEmpty_cons, if_neg Bool.false_ne_true, String.toList_append]
  rfl

theorem mem_languages (h : ∀ l ∈ langs, IsIdentifier l) :
    ∀ c ∈ (Render.languages langs).toList, isIdentifierChar c = true ∨ c = '@' ∨ c = ':' := by
  intro c hc
  cases langs with
  | nil => exact absurd hc List.not_mem_nil
  | cons lang langs =>
    rw [List.forall_mem_cons] at h
    rw [toList_languages_cons, toList_join_cons] at hc
    rcases List.mem_cons.1 hc with rfl | hc
    · exact Or.inr (Or.inl rfl)
    · rcases List.mem_append.1 hc with hc | hc
      · exact Or.inl (h.1.all c hc)
      · obtain ⟨l, hl, hc⟩ := List.mem_flatMap.1 hc
        rcases List.mem_append.1 hc with hc | hc
        · exact Or.inr (Or.inr (List.mem_singleton.1 hc))
        · exact Or.inl ((h.2 l hl).all c hc)

theorem spacing_languages (h : ∀ l ∈ langs, IsIdentifier l) :
    Text.spacing false (Render.languages langs).toList = some false := by
  refine spacing_of_no_blank (List.any_eq_false.2 fun c hc => ?_)
  rcases mem_languages h c hc with hc | rfl | rfl
  · rw [not_isBlank_of_isIdentifierChar hc]
    exact Bool.false_ne_true
  · decide
  · decide

/-- Where no languages are written, what follows does not start with an at sign. -/
theorem languages_cons_ne (lang : String) (langs : List String) {r : List Char}
    (hr : ∀ c ∈ r.head?, c = '(' ∨ c = ' ') (s : List Char) :
    (Render.languages (lang :: langs)).toList ++ s ≠ r := by
  rintro rfl
  rw [toList_languages_cons] at hr
  exact absurd (hr '@' rfl) (by decide)

theorem languages_cut (h : ∀ l ∈ langs, IsIdentifier l) (h' : ∀ l ∈ langs', IsIdentifier l)
    {r r' : List Char} (hr : ∀ c ∈ r.head?, c = '(' ∨ c = ' ')
    (hr' : ∀ c ∈ r'.head?, c = '(' ∨ c = ' ')
    (heq : (Render.languages langs).toList ++ r = (Render.languages langs').toList ++ r') :
    langs = langs' ∧ r = r' := by
  have hends : ∀ {s : List Char}, (∀ c ∈ s.head?, c = '(' ∨ c = ' ') →
      Ends isIdentifierChar ':' s := by
    intro s hs c hc
    rcases hs c hc with rfl | rfl
    · decide
    · decide
  cases langs with
  | nil =>
    cases langs' with
    | nil => exact ⟨rfl, heq⟩
    | cons lang' langs' => exact absurd heq.symm (languages_cons_ne lang' langs' hr r')
  | cons lang langs =>
    cases langs' with
    | nil => exact absurd heq (languages_cons_ne lang langs hr' r)
    | cons lang' langs' =>
      rw [toList_languages_cons, toList_languages_cons] at heq
      have hsep : ":".toList = ':' :: [] := rfl
      exact join_cut hsep (by decide) (fun l hl => ⟨(h l hl).ne_empty, (h l hl).all⟩)
        (fun l hl => ⟨(h' l hl).ne_empty, (h' l hl).all⟩) (hends hr) (hends hr')
        (List.cons.inj heq).2

end Languages

/-! ## Arguments and orderings -/

theorem orderTexts_of_uses_eq_nil {c : Clause} (huses : c.uses = []) :
    c.orderTexts = c.orders.map plainOrderText := by
  rw [orderTexts_eq]
  refine List.map_congr_left fun o _ => ?_
  unfold useKinds
  rw [orderText_eq, huses]
  rfl

theorem isIdentifier_direction (o : Order) : IsIdentifier o.direction := by
  have hwords : ∀ descending : Bool, IsIdentifier (directionWord descending) := by decide
  exact hwords o.descending

theorem directionWord_injective : ∀ d d' : Bool, directionWord d = directionWord d' → d = d' := by
  decide

section Orders

variable {o o' : Order}

theorem toList_plainOrderText (o : Order) :
    (plainOrderText o).toList = o.direction.toList ++ (": ".toList ++ (o.attr.toList ++
      (Render.languages o.langs).toList)) := by
  unfold plainOrderText
  simp only [String.toList_append, List.append_assoc]

theorem isPart_order (hattr : IsIdentifier o.attr) (hlangs : ∀ l ∈ o.langs, IsIdentifier l) :
    IsPart (plainOrderText o) := by
  have hdirection := isIdentifier_direction o
  have hspacing : Text.spacing true (plainOrderText o).toList = some false := by
    have hmark : Text.spacing false ": ".toList = some true := by decide
    rw [toList_plainOrderText, spacing_append_of_eq_some (hdirection.spacing true),
      spacing_append_of_eq_some hmark, spacing_append_of_eq_some (hattr.spacing true)]
    exact spacing_languages hlangs
  refine ⟨ne_empty_of_spacing hspacing, ?_, hspacing⟩
  rw [toList_plainOrderText, List.forall_mem_append, List.forall_mem_append,
    List.forall_mem_append]
  refine ⟨fun c hc => isPartChar_of_isIdentifierChar (hdirection.all c hc), isPartChar_colon,
    fun c hc => isPartChar_of_isIdentifierChar (hattr.all c hc), fun c hc => ?_⟩
  rcases mem_languages hlangs c hc with hc | rfl | rfl
  · exact isPartChar_of_isIdentifierChar hc
  · decide
  · decide

theorem toList_colon : ": ".toList = ':' :: [' '] := rfl

/-- A name in front of a colon is known from the text. -/
theorem colon_cut {name name' : String} (h : IsIdentifier name) (h' : IsIdentifier name')
    {r r' : List Char}
    (heq : name.toList ++ (": ".toList ++ r) = name'.toList ++ (": ".toList ++ r')) :
    name = name' ∧ r = r' := by
  obtain ⟨hname, hrest⟩ := cut h.all h'.all (head?_mark toList_colon (by decide) r)
    (head?_mark toList_colon (by decide) r') heq
  exact ⟨String.toList_inj.1 hname, List.append_cancel_left hrest⟩

/-- An ordering is known from its text. -/
theorem order_eq_of_text (hattr : IsIdentifier o.attr) (hlangs : ∀ l ∈ o.langs, IsIdentifier l)
    (hattr' : IsIdentifier o'.attr) (hlangs' : ∀ l ∈ o'.langs, IsIdentifier l)
    (heq : plainOrderText o = plainOrderText o') : o = o' := by
  have hchars := congrArg String.toList heq
  rw [toList_plainOrderText, toList_plainOrderText] at hchars
  obtain ⟨hdirection, hrest⟩ :=
    colon_cut (isIdentifier_direction o) (isIdentifier_direction o') hchars
  have hafter : ∀ langs : List String, ∀ c ∈ (Render.languages langs).toList.head?,
      isIdentifierChar c = false := by
    intro langs c hc
    cases langs with
    | nil => exact absurd hc (by simp [Render.languages_eq])
    | cons lang langs =>
      rw [toList_languages_cons] at hc
      obtain rfl := Option.some.inj hc
      decide
  obtain ⟨hname, hlast⟩ := cut hattr.all hattr'.all (hafter _) (hafter _) hrest
  have hend : ∀ c ∈ ([] : List Char).head?, c = '(' ∨ c = ' ' := by simp
  rw [← List.append_nil (Render.languages o.langs).toList,
    ← List.append_nil (Render.languages o'.langs).toList] at hlast
  obtain ⟨hlang, -⟩ := languages_cut hlangs hlangs' hend hend hlast
  have hdescending := directionWord_injective o.descending o'.descending hdirection
  show (⟨o.attr, o.descending, o.langs⟩ : Order) = ⟨o'.attr, o'.descending, o'.langs⟩
  rw [String.toList_inj.1 hname, hdescending, hlang]

end Orders

/-! ## Lists of arguments and orderings -/

/-- A list is known from what becomes of its elements if each of these is. -/
theorem eq_of_map_eq {α β : Type} {f : α → β} {xs ys : List α}
    (hinj : ∀ x ∈ xs, ∀ y ∈ ys, f x = f y → x = y) (h : xs.map f = ys.map f) : xs = ys := by
  induction xs generalizing ys with
  | nil => exact (List.map_eq_nil_iff.1 h.symm).symm
  | cons x xs ih =>
    cases ys with
    | nil => exact absurd h (by simp)
    | cons y ys =>
      rw [List.map_cons, List.map_cons] at h
      obtain ⟨hhead, htail⟩ := List.cons.inj h
      rw [hinj x List.mem_cons_self y List.mem_cons_self hhead, ih (fun x hx y hy =>
        hinj x (List.mem_cons_of_mem _ hx) y (List.mem_cons_of_mem _ hy)) htail]

/-- Whether a part is an ordering: arguments are not called like one. -/
def isOrderPart (t : String) : Bool :=
  ["orderasc", "orderdesc"].contains (String.ofList (t.toList.takeWhile isIdentifierChar))

section Parts

variable {c c' : Clause}

theorem isOrderPart_of_colon {name rest : String} (h : IsIdentifier name) :
    isOrderPart (name ++ ": " ++ rest) = ["orderasc", "orderdesc"].contains name := by
  unfold isOrderPart
  rw [String.toList_append, String.toList_append, List.append_assoc,
    takeWhile_part h.all (head?_mark toList_colon (by decide) _), String.ofList_toList]

theorem isOrderPart_argument (h : c.HasIdentifiers) :
    ∀ t ∈ c.argumentTexts, isOrderPart t = false := by
  intro t ht
  rw [argumentTexts_eq] at ht
  obtain ⟨e, he, rfl⟩ := List.mem_map.1 ht
  obtain ⟨hkey, hreserved, -⟩ := h.arguments e he
  rw [isOrderPart_of_colon hkey, ← Bool.not_eq_true, List.contains_iff_mem]
  exact fun hmem => hreserved (List.mem_cons_of_mem _ hmem)

theorem isOrderPart_order (huses : c.uses = []) :
    ∀ t ∈ c.orderTexts, isOrderPart t = true := by
  intro t ht
  rw [orderTexts_of_uses_eq_nil huses] at ht
  obtain ⟨o, -, rfl⟩ := List.mem_map.1 ht
  unfold plainOrderText
  have hwords : ∀ descending : Bool,
      ["orderasc", "orderdesc"].contains (directionWord descending) = true := by decide
  rw [String.append_assoc, isOrderPart_of_colon (isIdentifier_direction o)]
  exact hwords o.descending

theorem isPart_argumentTexts (h : c.HasIdentifiers) : ∀ t ∈ c.argumentTexts, IsPart t := by
  intro t ht
  rw [argumentTexts_eq] at ht
  obtain ⟨e, he, rfl⟩ := List.mem_map.1 ht
  exact isPart_argument (h.arguments e he).1 (h.arguments e he).2.2

theorem isPart_orderTexts (h : c.HasIdentifiers) (huses : c.uses = []) :
    ∀ t ∈ c.orderTexts, IsPart t := by
  intro t ht
  rw [orderTexts_of_uses_eq_nil huses] at ht
  obtain ⟨o, ho, rfl⟩ := List.mem_map.1 ht
  exact isPart_order (h.orders o ho).1 (h.orders o ho).2

/-- Arguments and orderings are known from their texts. -/
theorem arguments_eq_of_texts (h : c.HasIdentifiers) (h' : c'.HasIdentifiers)
    (heq : c.argumentTexts = c'.argumentTexts) : c.arguments = c'.arguments := by
  rw [argumentTexts_eq, argumentTexts_eq] at heq
  refine Table.ext_entries (eq_of_map_eq ?_ heq)
  intro e he e' he' htext
  have hchars := congrArg String.toList htext
  simp only [String.toList_append, List.append_assoc] at hchars
  obtain ⟨hkey, hvalue⟩ := colon_cut (h.arguments e he).1 (h'.arguments e' he').1 hchars
  exact Prod.ext hkey (String.toList_inj.1 hvalue)

theorem orders_eq_of_texts (h : c.HasIdentifiers) (h' : c'.HasIdentifiers) (huses : c.uses = [])
    (huses' : c'.uses = []) (heq : c.orderTexts = c'.orderTexts) : c.orders = c'.orders := by
  rw [orderTexts_of_uses_eq_nil huses, orderTexts_of_uses_eq_nil huses'] at heq
  refine eq_of_map_eq ?_ heq
  intro o ho o' ho' htext
  exact order_eq_of_text (h.orders o ho).1 (h.orders o ho).2 (h'.orders o' ho').1
    (h'.orders o' ho').2 htext

/-- The arguments and orderings of a node are known from the list of both, in whichever order
the two are listed. -/
theorem parts_cut (h : c.HasIdentifiers) (h' : c'.HasIdentifiers) (huses : c.uses = [])
    (huses' : c'.uses = [])
    (heq : c.argumentTexts ++ c.orderTexts = c'.argumentTexts ++ c'.orderTexts ∨
      c.orderTexts ++ c.argumentTexts = c'.orderTexts ++ c'.argumentTexts) :
    c.arguments = c'.arguments ∧ c.orders = c'.orders := by
  have htexts : c.argumentTexts = c'.argumentTexts ∧ c.orderTexts = c'.orderTexts := by
    rcases heq with heq | heq
    · refine cut (q := fun t => !isOrderPart t) ?_ ?_ ?_ ?_ heq
      · intro t ht
        rw [isOrderPart_argument h t ht]
        rfl
      · intro t ht
        rw [isOrderPart_argument h' t ht]
        rfl
      · intro t ht
        rw [isOrderPart_order huses t (List.mem_of_mem_head? ht)]
        rfl
      · intro t ht
        rw [isOrderPart_order huses' t (List.mem_of_mem_head? ht)]
        rfl
    · refine (cut (isOrderPart_order huses) (isOrderPart_order huses') ?_ ?_ heq).symm
      · exact fun t ht => isOrderPart_argument h t (List.mem_of_mem_head? ht)
      · exact fun t ht => isOrderPart_argument h' t (List.mem_of_mem_head? ht)
  exact ⟨arguments_eq_of_texts h h' htexts.1, orders_eq_of_texts h h' huses huses' htexts.2⟩

/-- A bracket closes a list of parts. -/
theorem ends_bracket (r : List Char) : Ends isPartChar ',' (')' :: r) := ends_cons (by decide) r

theorem toList_comma : ", ".toList = ',' :: [' '] := rfl

/-! ## Parameters -/

/-- What a node takes in brackets. -/
def parts (c : Clause) : List String := c.argumentTexts ++ c.orderTexts

theorem isPart_parts (h : c.HasIdentifiers) (huses : c.uses = []) : ∀ t ∈ c.parts, IsPart t :=
  List.forall_mem_append.2 ⟨isPart_argumentTexts h, isPart_orderTexts h huses⟩

theorem parameters_of_nil (h : c.parts = []) : c.parameters = "" := by
  have hparts : c.argumentTexts ++ c.orderTexts = [] := h
  rw [parameters_eq, hparts]
  rfl

theorem toList_parameters_of_ne_nil (h : c.parts ≠ []) (s : List Char) :
    c.parameters.toList ++ s = '(' :: ((join ", " c.parts).toList ++ ')' :: s) := by
  have hparts : c.parameters = if c.parts.isEmpty then "" else "(" ++ join ", " c.parts ++ ")" :=
    c.parameters_eq
  rw [hparts, if_neg (by simpa using h)]
  simp only [String.toList_append, List.append_assoc]
  rfl

/-- Where nothing is in brackets, no bracket opens what follows. -/
theorem parameters_append_ne (h : c.parts ≠ []) {r : List Char} (hr : ∀ d ∈ r.head?, d = ' ')
    (s : List Char) : c.parameters.toList ++ s ≠ r := by
  rintro rfl
  rw [toList_parameters_of_ne_nil h] at hr
  exact absurd (hr '(' rfl) (by decide)

/-- What a node takes in brackets is known from its text, if no bracket follows. -/
theorem parameters_cut (h : ∀ t ∈ c.parts, IsPart t) (h' : ∀ t ∈ c'.parts, IsPart t)
    {r s : List Char} (hr : ∀ d ∈ r.head?, d = ' ') (hs : ∀ d ∈ s.head?, d = ' ')
    (heq : c.parameters.toList ++ r = c'.parameters.toList ++ s) : c.parts = c'.parts ∧ r = s := by
  by_cases hnil : c.parts = []
  · by_cases hnil' : c'.parts = []
    · rw [parameters_of_nil hnil, parameters_of_nil hnil'] at heq
      exact ⟨hnil.trans hnil'.symm, heq⟩
    · rw [parameters_of_nil hnil] at heq
      exact absurd heq.symm (parameters_append_ne hnil' hr s)
  · by_cases hnil' : c'.parts = []
    · rw [parameters_of_nil hnil'] at heq
      exact absurd heq (parameters_append_ne hnil hs r)
    · rw [toList_parameters_of_ne_nil hnil, toList_parameters_of_ne_nil hnil'] at heq
      obtain ⟨hparts, hrest⟩ := join_cut toList_comma (by decide)
        (fun t ht => ⟨(h t ht).ne_empty, (h t ht).all⟩)
        (fun t ht => ⟨(h' t ht).ne_empty, (h' t ht).all⟩)
        (ends_bracket r) (ends_bracket s) (List.cons.inj heq).2
      exact ⟨hparts, (List.cons.inj hrest).2⟩

theorem spacing_comma : Text.spacing false ", ".toList = some true := by decide

theorem spacing_parameters (h : ∀ t ∈ c.parts, IsPart t) :
    Text.spacing false c.parameters.toList = some false := by
  cases hparts : c.parts with
  | nil =>
    rw [parameters_of_nil hparts]
    rfl
  | cons t ts =>
    rw [hparts, List.forall_mem_cons] at h
    have hne : t.toList ≠ [] := fun hnil => h.1.ne_empty (String.toList_inj.1 hnil)
    have htext := toList_parameters_of_ne_nil (c := c) (by rw [hparts]; simp) []
    rw [List.append_nil, hparts, toList_join_cons] at htext
    rw [htext, spacing_cons_of_not_isBlank (by decide), List.append_assoc,
      spacing_append_of_eq_some (spacing_of_held hne h.1.spacing false),
      spacing_append_of_eq_some (spacing_following spacing_comma fun t ht => (h.2 t ht).spacing)]
    rfl

end Parts

/-! ## Identifiers of nodes -/

theorem isIdentifierChar_of_mem_format {u : Uid} :
    ∀ d ∈ u.format.toList, isIdentifierChar d = true := by
  have hall : Uid.characters.all isIdentifierChar = true := by decide
  exact fun d hd => List.all_eq_true.1 hall d (Uid.mem_format hd)

theorem format_ne_empty (u : Uid) : u.format ≠ "" := by
  intro h
  have hchars := congrArg String.toList h
  unfold Uid.format at hchars
  rw [String.toList_ofList] at hchars
  exact absurd hchars (by simp)

/-- The identifiers of a lookup are known from its text. -/
theorem ids_cut {us vs : List Uid} {r s : List Char}
    (h : (join ", " (us.map Uid.format)).toList ++ ')' :: r
      = (join ", " (vs.map Uid.format)).toList ++ ')' :: s) : us = vs ∧ r = s := by
  have hitems : ∀ ws : List Uid, ∀ t ∈ ws.map Uid.format,
      t ≠ "" ∧ ∀ d ∈ t.toList, isIdentifierChar d = true := by
    intro ws t ht
    obtain ⟨w, -, rfl⟩ := List.mem_map.1 ht
    exact ⟨format_ne_empty w, isIdentifierChar_of_mem_format⟩
  have hend : ∀ u : List Char, Ends isIdentifierChar ',' (')' :: u) := ends_cons (by decide)
  obtain ⟨hids, hrest⟩ := join_cut toList_comma (by decide) (hitems us) (hitems vs) (hend r)
    (hend s) h
  exact ⟨eq_of_map_eq (fun _ _ _ _ => Uid.format_injective) hids, (List.cons.inj hrest).2⟩

theorem spacing_ids (us : List Uid) :
    Text.spacing false (join ", " (us.map Uid.format)).toList = some false := by
  have hword : ∀ (u : Uid) (held : Bool), Text.spacing held u.format.toList = some false :=
    fun u => spacing_of_isIdentifierChar (format_ne_empty u) isIdentifierChar_of_mem_format
  cases us with
  | nil => rfl
  | cons u us =>
    rw [List.map_cons, toList_join_cons, spacing_append_of_eq_some (hword u false)]
    refine spacing_following spacing_comma fun t ht => ?_
    obtain ⟨v, -, rfl⟩ := List.mem_map.1 ht
    exact hword v true

end Clause

end Dql
