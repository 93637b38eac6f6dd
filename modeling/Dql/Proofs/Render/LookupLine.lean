import Dql.Proofs.Render.LookupPart

/-!
# The lines of a lookup block are unambiguous

A line is cut into its parts from left to right: the indentation is known from the depth,
a name ends where the first character stands that is in no identifier, a list ends at a
character that is in no part of it. So a node is known from its line, an attribute
(`Clause.eq_of_attributeNodeLine`) as well as a root (`Clause.eq_of_lookupLine`).

All these lines are in normal layout (`Clause.isNormalLine_attributeNodeLine`,
`Clause.isNormalLine_lookupLine`): behind the indentation there are no blanks but single
spaces.
-/

namespace Dql

open Text

namespace Clause

variable {c c' : Clause}

/-! ## Marks at the end -/

theorem mem_endMarks (c : Clause) (opens : Bool) :
    ∀ t ∈ c.endMarks opens,
      t ∈ ["@normalize", "@cascade", "@recurse", "@ignorereflex", "\x7b"] := by
  unfold endMarks
  rw [flagDirectives_eq]
  cases c.normalize <;> cases c.cascade <;> cases c.recurse <;> cases c.ignoreReflex <;>
    cases opens <;> decide

/-- The flags of a node, and whether its line opens a block, are known from its marks. -/
theorem endMarks_injective {opens opens' : Bool} (h : c.endMarks opens = c'.endMarks opens') :
    c.normalize = c'.normalize ∧ c.cascade = c'.cascade ∧ c.recurse = c'.recurse ∧
      c.ignoreReflex = c'.ignoreReflex ∧ opens = opens' := by
  have hflags : ∀ (c : Clause) (opens : Bool),
      c.normalize = decide ("@normalize" ∈ c.endMarks opens) ∧
      c.cascade = decide ("@cascade" ∈ c.endMarks opens) ∧
      c.recurse = decide ("@recurse" ∈ c.endMarks opens) ∧
      c.ignoreReflex = decide ("@ignorereflex" ∈ c.endMarks opens) ∧
      opens = decide ("\x7b" ∈ c.endMarks opens) := by
    intro c opens
    unfold endMarks
    rw [flagDirectives_eq]
    cases c.normalize <;> cases c.cascade <;> cases c.recurse <;> cases c.ignoreReflex <;>
      cases opens <;> decide
  obtain ⟨hn, hc, hr, hi, ho⟩ := hflags c opens
  obtain ⟨hn', hc', hr', hi', ho'⟩ := hflags c' opens'
  rw [h] at hn hc hr hi ho
  exact ⟨hn.trans hn'.symm, hc.trans hc'.symm, hr.trans hr'.symm, hi.trans hi'.symm,
    ho.trans ho'.symm⟩

/-- The marks at the end of a line are known from its text. -/
theorem endMarks_cut {opens opens' : Bool}
    (h : following " " (c.endMarks opens) = following " " (c'.endMarks opens')) :
    c.endMarks opens = c'.endMarks opens' := by
  have hspace : " ".toList = ' ' :: [] := rfl
  have hchars : ∀ t ∈ ["@normalize", "@cascade", "@recurse", "@ignorereflex", "\x7b"],
      t.toList.all (· != ' ') = true := by decide
  have hend : Ends (fun d => d != ' ') ' ' [] := fun d hd => absurd hd (by simp)
  rw [← List.append_nil (following " " (c.endMarks opens)),
    ← List.append_nil (following " " (c'.endMarks opens'))] at h
  exact (following_cut hspace (by decide)
    (fun t ht => List.all_eq_true.1 (hchars t (c.mem_endMarks opens t ht)))
    (fun t ht => List.all_eq_true.1 (hchars t (c'.mem_endMarks opens' t ht))) hend hend h).1

/-- What all nodes of a lookup block may say is known from its parts. -/
theorem shared_eq {opens opens' : Bool} (hvariable : c.variableName = c'.variableName)
    (harguments : c.arguments = c'.arguments) (horders : c.orders = c'.orders)
    (hmarks : c.endMarks opens = c'.endMarks opens') : c.shared = c'.shared ∧ opens = opens' := by
  obtain ⟨hnormalize, hcascade, hrecurse, hignore, hopens⟩ := endMarks_injective hmarks
  refine ⟨?_, hopens⟩
  unfold shared
  rw [hvariable, harguments, horders, hnormalize, hcascade, hrecurse, hignore]

/-! ## Lines -/

/-- What a line goes on with behind its marks: nothing, or a space and a mark. -/
theorem head?_endMarks (c : Clause) (opens : Bool) :
    ∀ d ∈ (following " " (c.endMarks opens)).head?, d = ' ' := by
  intro d hd
  cases hmarks : c.endMarks opens with
  | nil =>
    rw [hmarks] at hd
    exact absurd hd (by simp [following])
  | cons t ts =>
    rw [hmarks, following_cons] at hd
    exact (Option.some.inj hd).symm

theorem toList_keyword : " as ".toList = ' ' :: "as ".toList := rfl

/-- No mark at the end of a line looks like the keyword of a binding. -/
theorem not_keyword_endMarks (c : Clause) (opens : Bool) :
    ¬ " as ".toList <+: following " " (c.endMarks opens) := by
  have hstart : ∀ t ∈ ["@normalize", "@cascade", "@recurse", "@ignorereflex", "\x7b"],
      ∃ d rest, t.toList = d :: rest ∧ d ≠ 'a' := by
    simp
  intro h
  cases hmarks : c.endMarks opens with
  | nil =>
    rw [hmarks] at h
    exact absurd (List.prefix_nil.1 h) (by decide)
  | cons t ts =>
    obtain ⟨d, rest, ht, hd⟩ := hstart t (c.mem_endMarks opens t (by rw [hmarks]; simp))
    rw [hmarks, following_cons, ht] at h
    have h : ' ' :: 'a' :: ['s', ' '] <+: ' ' :: d :: (rest ++ following " " ts) := h
    rw [List.cons_prefix_cons, List.cons_prefix_cons] at h
    exact hd h.2.1.symm

/-- What follows the attribute of a node on its line. -/
def attributeTail (c : Clause) (opens : Bool) : List Char :=
  (Render.languages c.langs).toList ++ (c.parameters.toList ++ following " " (c.endMarks opens))

/-- Behind the languages there is a bracket, a space or nothing. -/
theorem head?_parameters (c : Clause) (opens : Bool) :
    ∀ d ∈ (c.parameters.toList ++ following " " (c.endMarks opens)).head?, d = '(' ∨ d = ' ' := by
  intro d hd
  by_cases hnil : c.parts = []
  · rw [parameters_of_nil hnil] at hd
    exact Or.inr (c.head?_endMarks opens d hd)
  · rw [toList_parameters_of_ne_nil hnil] at hd
    exact Or.inl (Option.some.inj hd).symm

theorem attributeTail_cases (c : Clause) (opens : Bool) :
    (∃ d rest, c.attributeTail opens = d :: rest ∧ (d = '@' ∨ d = '(')) ∨
      c.attributeTail opens = following " " (c.endMarks opens) := by
  unfold attributeTail
  cases hlangs : c.langs with
  | cons lang langs =>
    rw [toList_languages_cons]
    exact Or.inl ⟨'@', _, rfl, Or.inl rfl⟩
  | nil =>
    by_cases hnil : c.parts = []
    · rw [parameters_of_nil hnil]
      exact Or.inr rfl
    · rw [toList_parameters_of_ne_nil hnil]
      exact Or.inl ⟨'(', _, rfl, Or.inr rfl⟩

/-- Nothing that follows an attribute goes on with it, is a colon or looks like the keyword
of a binding. -/
theorem attributeTail_ends (c : Clause) (opens : Bool) :
    (∀ d ∈ (c.attributeTail opens).head?, isIdentifierChar d = false) ∧
      ¬ ": ".toList <+: c.attributeTail opens ∧ ¬ " as ".toList <+: c.attributeTail opens := by
  rcases c.attributeTail_cases opens with ⟨d, rest, htail, hd⟩ | htail
  · rw [htail]
    have hends : isIdentifierChar d = false ∧ d ≠ ':' ∧ d ≠ ' ' := by
      rcases hd with rfl | rfl
      · decide
      · decide
    refine ⟨fun e he => ?_, not_mark_prefix_cons toList_colon hends.2.1 rest,
      not_mark_prefix_cons toList_keyword hends.2.2 rest⟩
    obtain rfl := Option.some.inj he
    exact hends.1
  · rw [htail]
    refine ⟨fun e he => ?_, fun h => ?_, c.not_keyword_endMarks opens⟩
    · rw [c.head?_endMarks opens e he]
      decide
    · obtain ⟨more, hmore⟩ := h
      have hspace := c.head?_endMarks opens ':' (by rw [← hmore]; rfl)
      exact absurd hspace (by decide)

/-- Behind the first name of an attribute's line, its variable aside, no variable is bound. -/
theorem not_keyword_behindName (h : c.IsAttributeNode) (opens : Bool) :
    ¬ " as ".toList <+:
      behindName (c.aliasText.toList ++ (c.attr.toList ++ c.attributeTail opens)) := by
  obtain ⟨hhead, -, hkeyword⟩ := c.attributeTail_ends opens
  rcases h.aliasName with hnone | hsome
  · have hempty : c.aliasText = "" := by
      rw [aliasText_eq, hnone]
      rfl
    rw [hempty]
    show ¬ " as ".toList <+: behindName (c.attr.toList ++ c.attributeTail opens)
    rwa [behindName_append h.attr hhead]
  · rw [aliasText_eq]
    rw [behindName_label toList_colon (by decide) hsome]
    exact not_mark_prefix_cons toList_keyword (by decide) _

/-- **An attribute node is known from its line.** -/
theorem eq_of_attributeNodeLine (h : c.IsAttributeNode) (h' : c'.IsAttributeNode) {depth : Nat}
    {opens opens' : Bool}
    (heq : c.attributeNodeLine depth opens = c'.attributeNodeLine depth opens') :
    c = c' ∧ opens = opens' := by
  have hchars := congrArg String.toList heq
  rw [toList_attributeNodeLine, toList_attributeNodeLine] at hchars
  have hbody := List.append_cancel_left hchars
  obtain ⟨hhead, hcolon, -⟩ := c.attributeTail_ends opens
  obtain ⟨hhead', hcolon', -⟩ := c'.attributeTail_ends opens'
  rw [bindingText_eq, bindingText_eq] at hbody
  obtain ⟨hvariable, hrest⟩ := label_cut toList_keyword (by decide) h.variableName h'.variableName
    (not_keyword_behindName h opens) (not_keyword_behindName h' opens') hbody
  rw [aliasText_eq, aliasText_eq] at hrest
  obtain ⟨hname, hrest⟩ := label_cut toList_colon (by decide) h.aliasName h'.aliasName
    (by rwa [behindName_append h.attr hhead]) (by rwa [behindName_append h'.attr hhead']) hrest
  obtain ⟨hattr, hrest⟩ := cut h.attr.all h'.attr.all hhead hhead' hrest
  obtain ⟨hlangs, hrest⟩ := languages_cut h.langs h'.langs (c.head?_parameters opens)
    (c'.head?_parameters opens') hrest
  have huses : c.uses = [] := congrArg Clause.uses h.rest
  have huses' : c'.uses = [] := congrArg Clause.uses h'.rest
  obtain ⟨hparts, hmarks⟩ := parameters_cut (isPart_parts h.toHasIdentifiers huses)
    (isPart_parts h'.toHasIdentifiers huses') (c.head?_endMarks opens)
    (c'.head?_endMarks opens') hrest
  obtain ⟨harguments, horders⟩ := parts_cut h.toHasIdentifiers h'.toHasIdentifiers huses huses'
    (Or.inl hparts)
  obtain ⟨hshared, hopens⟩ := shared_eq hvariable harguments horders (endMarks_cut hmarks)
  refine ⟨?_, hopens⟩
  rw [h.rest, h'.rest, hshared, String.toList_inj.1 hattr, hlangs, hname]

/-- What follows the identifiers on the line of a root. -/
theorem isPart_rootParts (h : c.IsLookupRoot) : ∀ t ∈ c.orderTexts ++ c.argumentTexts, IsPart t :=
  have huses : c.uses = [] := congrArg Clause.uses h.rest
  List.forall_mem_append.2
    ⟨isPart_orderTexts h.toHasIdentifiers huses, isPart_argumentTexts h.toHasIdentifiers⟩

/-- **A root is known from its line.** -/
theorem eq_of_lookupLine (h : c.IsLookupRoot) (h' : c'.IsLookupRoot) {depth : Nat}
    (heq : c.lookupLine depth = c'.lookupLine depth) : c = c' := by
  have hchars := congrArg String.toList heq
  rw [toList_lookupLine, toList_lookupLine] at hchars
  have hbody := List.append_cancel_left hchars
  have hopening : "(func: uid(".toList = '(' :: "func: uid(".toList := rfl
  have hbracket : ∀ u : List Char, ∀ d ∈ ("(func: uid(".toList ++ u).head?,
      isIdentifierChar d = false := head?_mark hopening (by decide)
  have hkeyword : ∀ {name : String}, IsIdentifier name → ∀ u : List Char,
      ¬ " as ".toList <+: behindName (name.toList ++ ("(func: uid(".toList ++ u)) := by
    intro name hname u
    rw [behindName_append hname (hbracket u)]
    exact not_mark_prefix_cons toList_keyword (by decide) _
  rw [bindingText_eq, bindingText_eq] at hbody
  obtain ⟨hvariable, hrest⟩ := label_cut toList_keyword (by decide) h.variableName h'.variableName
    (hkeyword h.aliasName _) (hkeyword h'.aliasName _) hbody
  obtain ⟨hname, hrest⟩ := cut h.aliasName.all h'.aliasName.all (hbracket _) (hbracket _) hrest
  obtain ⟨hids, hrest⟩ := ids_cut (List.append_cancel_left hrest)
  have huses : c.uses = [] := congrArg Clause.uses h.rest
  have huses' : c'.uses = [] := congrArg Clause.uses h'.rest
  obtain ⟨hparts, hrest⟩ := following_cut toList_comma (by decide)
    (fun t ht => (isPart_rootParts h t ht).all) (fun t ht => (isPart_rootParts h' t ht).all)
    (ends_bracket _) (ends_bracket _) hrest
  obtain ⟨harguments, horders⟩ := parts_cut h.toHasIdentifiers h'.toHasIdentifiers huses huses'
    (Or.inr hparts)
  obtain ⟨hshared, -⟩ := shared_eq hvariable harguments horders
    (endMarks_cut (List.cons.inj hrest).2)
  rw [h.rest, h'.rest, hshared, hids, String.toList_inj.1 hname]

/-! ## They are in normal layout -/

theorem mem_indent {depth : Nat} : ∀ d ∈ (indent depth).toList, d = ' ' := by
  intro d hd
  unfold indent at hd
  rw [String.toList_ofList] at hd
  exact List.eq_of_mem_replicate hd

/-- Indentation and behind it a text with single spaces only: a line in normal layout. -/
theorem isNormalLine_indent {depth : Nat} {body : List Char}
    (h : Text.spacing true body = some false) : IsNormalLine ((indent depth).toList ++ body) := by
  refine isNormalLine_of_spacing mem_indent ?_ h
  rintro rfl
  exact absurd h (by decide)

theorem spacing_endMarks (c : Clause) (opens : Bool) :
    Text.spacing false (following " " (c.endMarks opens)) = some false := by
  have hmarks : ∀ t ∈ ["@normalize", "@cascade", "@recurse", "@ignorereflex", "\x7b"],
      Text.spacing true t.toList = some false := by decide
  exact spacing_following (by decide) fun t ht => hmarks t (c.mem_endMarks opens t ht)

theorem isNormalLine_attributeNodeLine (h : c.IsAttributeNode) (depth : Nat) (opens : Bool) :
    IsNormalLine (c.attributeNodeLine depth opens).toList := by
  have hbinding : Text.spacing true c.bindingText.toList = some true := by
    rw [bindingText_eq]
    exact spacing_label (by decide) h.variableName
  have halias : Text.spacing true c.aliasText.toList = some true := by
    rw [aliasText_eq]
    exact spacing_label (by decide) h.aliasName
  have hparts : ∀ t ∈ c.parts, IsPart t :=
    isPart_parts h.toHasIdentifiers (congrArg Clause.uses h.rest)
  rw [toList_attributeNodeLine]
  refine isNormalLine_indent ?_
  rw [spacing_append_of_eq_some hbinding, spacing_append_of_eq_some halias,
    spacing_append_of_eq_some (h.attr.spacing true),
    spacing_append_of_eq_some (spacing_languages h.langs),
    spacing_append_of_eq_some (spacing_parameters hparts)]
  exact spacing_endMarks c opens

theorem isNormalLine_lookupLine (h : c.IsLookupRoot) (depth : Nat) :
    IsNormalLine (c.lookupLine depth).toList := by
  have hbinding : Text.spacing true c.bindingText.toList = some true := by
    rw [bindingText_eq]
    exact spacing_label (by decide) h.variableName
  have hopen : Text.spacing false "(func: uid(".toList = some false := by decide
  have hparts :
      Text.spacing false (following ", " (c.orderTexts ++ c.argumentTexts)) = some false :=
    spacing_following spacing_comma fun t ht => (isPart_rootParts h t ht).spacing
  rw [toList_lookupLine]
  refine isNormalLine_indent ?_
  rw [spacing_append_of_eq_some hbinding, spacing_append_of_eq_some (h.aliasName.spacing true),
    spacing_append_of_eq_some hopen, spacing_append_of_eq_some (spacing_ids c.ids),
    spacing_cons_of_not_isBlank (by decide), spacing_append_of_eq_some hparts,
    spacing_cons_of_not_isBlank (by decide)]
  exact spacing_endMarks c true

/-! ## They close nothing -/

/-- A line that closes a block holds no character of an identifier. -/
theorem closingLine_ne {line : String} {d : Char} (hd : d ∈ line.toList)
    (hc : isIdentifierChar d = true) (depth : Nat) : closingLine depth ≠ line := by
  rintro rfl
  rw [closingLine_eq, String.toList_append] at hd
  rcases List.mem_append.1 hd with hd | hd
  · rw [mem_indent d hd] at hc
    exact absurd hc (by decide)
  · rw [List.mem_singleton.1 hd] at hc
    exact absurd hc (by decide)

theorem closingLine_ne_attributeNodeLine (h : c.IsAttributeNode) (depth depth' : Nat)
    (opens : Bool) : closingLine depth' ≠ c.attributeNodeLine depth opens := by
  obtain ⟨d, hd⟩ := h.attr.exists_mem
  refine closingLine_ne ?_ (h.attr.all d hd) depth'
  rw [toList_attributeNodeLine]
  simp [hd]

theorem closingLine_ne_lookupLine (h : c.IsLookupRoot) (depth depth' : Nat) :
    closingLine depth' ≠ c.lookupLine depth := by
  obtain ⟨d, hd⟩ := h.aliasName.exists_mem
  refine closingLine_ne ?_ (h.aliasName.all d hd) depth'
  rw [toList_lookupLine]
  simp [hd]

end Clause

end Dql
