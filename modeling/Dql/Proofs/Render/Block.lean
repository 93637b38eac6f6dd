import Dql.Proofs.Render.Filter
import Dql.Proofs.Query.References

/-!
# What the text of a block consists of

The functions that write a clause, a node and a block are gone through in the order in
which they call each other, with one lemma `consists_…` for each: its phrase consists of the
contents that are listed for it. A root with a call adds the word that opens its lookup.

What comes of it for the block is `Block.consists_phrases`, on which all rests that is said
of the text of a block as a whole. The first of these is `Block.lookups_render`: a block
opens one lookup for each root with a call, and beside those only what its unquoted strings
open.
-/

namespace Dql

open Text Phrase

/-! ## Clauses -/

/-- The values of variables that a node uses. -/
theorem Render.contents_references (us : List VariableUse) :
    (Term.values (us.map fun u => .reference u.name)).contents =
      { own := us.map (·.name), variableNames := us.map (·.name) } := by
  induction us with
  | nil => rfl
  | cons u us ih => exact congrArg (⟨[u.name], [], [], [u.name], []⟩ ++ ·) ih

namespace Clause

variable {c : Clause}

/-! ### Parts of a line -/

theorem consists_bindingPhrase (c : Clause) :
    c.bindingPhrase.Consists { own := [c.variableName] } ∧ EndsOff c.bindingPhrase.written := by
  unfold bindingPhrase Phrase.unlessEmpty
  split
  next h =>
    rw [String.isEmpty_iff.1 h]
    exact ⟨.nil_empty, by decide⟩
  next => exact ⟨(consists_own _).before (by decide), endsOff_mark (by decide)⟩

/-- What is written behind the alias. -/
theorem consists_aliased {t : Phrase} {d : Contents} (h : t.Consists d) :
    (c.aliasPhrase ++ t).Consists { d with own := Render.unquotedLabel c.aliasName ++ d.own } :=
  (consists_named c.aliasName).1.leading h (consists_named c.aliasName).2

theorem consists_argumentPhrases (c : Clause) :
    ConsistsAll c.argumentPhrases { own := c.unquotedArguments } :=
  (ConsistsAll.map c.arguments.entries fun e _ => consists_entry e.1 e.2).of_eq
    (Contents.ofEach_own _ _)

theorem leads_direction (descending : Bool) : Leads (directionWord descending ++ ": ") := by
  cases descending <;> decide

/-- An ordering is by a variable exactly if the node uses one of that name. -/
theorem consists_orderPhrase (c : Clause) (o : Order) :
    (orderPhrase c.useKinds o).Consists {
      own := c.unquotedOrder o
      predicates := if (c.useKinds.find? o.attr).isNone then [(.ordering, o.attr)] else []
      variableNames := if (c.useKinds.find? o.attr).isSome then [o.attr] else [] } := by
  have hlead := leads_direction o.descending
  unfold orderPhrase unquotedOrder
  cases c.useKinds.find? o.attr with
  | some kind =>
    exact (consists_term (.values [.ordered o.attr kind])).behind hlead
  | none =>
    have hattr := consists_term (.name (.predicate .ordering o.attr))
    exact Render.consists_attribute (hattr.behind hlead) o.langs

theorem consists_orderPhrases (c : Clause) :
    ConsistsAll c.orderPhrases c.orderContents := by
  refine (ConsistsAll.map c.orders fun o _ => c.consists_orderPhrase o).of_eq ?_
  unfold Contents.ofEach orderContents orderPredicates orderVariables
  rw [← flatMap_ite_eq_map_filter, ← flatMap_ite_eq_map_filter]
  simp only [Contents.flatMap_nil]
  rfl

theorem consists_parameterPhrase (c : Clause) :
    c.parameterPhrase.Consists c.parameterContents ∧ StartsOff c.parameterPhrase.written := by
  have hparts := (c.consists_argumentPhrases.append c.consists_orderPhrases).of_eq
    (show _ = c.parameterContents from rfl)
  unfold parameterPhrase
  dsimp only
  split
  next hempty =>
    rw [List.isEmpty_iff.1 hempty] at hparts
    rw [hparts.eq_empty]
    exact ⟨.nil, by decide⟩
  next => exact hparts.listed.inBrackets

theorem consists_expansionPhrase (c : Clause) :
    c.expansionPhrase.Consists { own := c.unquotedExpansion, variableNames := c.unquotedUses } ∧
      StartsOff c.expansionPhrase.written := by
  unfold expansionPhrase unquotedExpansion
  split
  · exact ⟨Consists.nil.within_names (by simp), by decide⟩
  · split
    · obtain ⟨hexpand, hstart⟩ := (consists_own c.expand).inBrackets
      exact ⟨hexpand.within_names (by simp), hstart⟩
    · exact (Render.consists_uses c.uses Render.contents_useTerm).inBrackets

theorem consists_attributePhrase (c : Clause) :
    c.attributePhrase.Consists c.attributeContents :=
  Render.consists_attribute (consists_subject c.attr) c.langs

/-! ### What a node is about -/

/-- What the arguments of the function that generates a node consist of. -/
theorem contents_functionTerms (c : Clause) (call : Call) :
    ∃ names, (∀ n ∈ names, n ∈ Scope.namesInCall call) ∧
      (c.functionTerms call).flatMap Term.uncheckedInside = call.rawArguments ∧
      Contents.ofEach (c.functionTerms call) Term.contents =
        { own := unquotedFunctionArguments call, literals := call.quotedArguments
          variableNames := names } := by
  have hused : ∀ n ∈ call.unquotedUses, n ∈ Scope.namesInCall call :=
    fun _ => Call.mem_namesInCall_of_use
  unfold functionTerms unquotedFunctionArguments
  rcases call.argumentTerms?_cases with ⟨hnone, hempty⟩ | ⟨ts, names, hsome, hne, hnames, hraw, hts⟩
  · -- only a call without arguments of its own is written with the node's identifiers
    have hnothing : call.rawArguments = [] := by rw [Call.rawArguments, hempty]
    rw [hempty, List.isEmpty_nil, Bool.and_true, if_pos rfl, hnothing,
      Call.quotedArguments_of_nil hempty]
    refine ⟨call.unquotedUses, hused, ?_⟩
    split
    · refine ⟨?_, Render.contents_identifiers c.ids call.uses⟩
      rw [List.flatMap_append, List.flatMap_map, List.flatMap_map]
      exact List.append_eq_nil_iff.2 ⟨Contents.flatMap_nil _, Contents.flatMap_nil _⟩
    · rw [hnone]
      dsimp only
      have hcontents : ∀ u, ((if c.attr.isEmpty then Render.useTerm else Render.referenceTerm) u :
          Term).contents = { own := [u.name], variableNames := [u.name] } := by
        intro u
        split
        · exact Render.contents_useTerm u
        · rfl
      refine ⟨?_, ?_⟩
      · rw [List.flatMap_map]
        refine List.flatMap_eq_nil_iff.2 fun u _ => ?_
        split
        · unfold Render.useTerm
          cases u.kind <;> rfl
        · rfl
      · rw [Contents.ofEach_map, funext hcontents, Contents.ofEach_variable]
        rfl
  · have hargs : call.arguments.isEmpty = false := by simpa using hne
    simp only [hargs, hsome, Bool.and_false, Bool.false_eq_true, if_false]
    exact ⟨names, fun n hn => Call.mem_namesInCall_of_value (hnames n hn), hraw, hts⟩

/-- Nothing but empty texts is joined to the empty one. -/
theorem eq_empty_of_join_eq_empty {sep s : String} {ss : List String} (h : join sep ss = "")
    (hs : s ∈ ss) : s = "" := by
  induction ss with
  | nil => exact absurd hs List.not_mem_nil
  | cons t rest ih =>
    cases rest with
    | nil => exact (List.mem_singleton.1 hs).trans h
    | cons u rest =>
      rw [join_cons_cons, String.append_eq_empty_iff, String.append_eq_empty_iff] at h
      rcases List.mem_cons.1 hs with rfl | hs
      · exact h.1.1
      · exact ih h.2 hs

/-- Where the arguments come to nothing there is no literal among them. -/
theorem quotedArguments_of_isEmpty {call : Call}
    (h : (c.functionArguments call).isEmpty = true) : call.quotedArguments = [] := by
  obtain ⟨names, -, -, hcontents⟩ := c.contents_functionTerms call
  have hliterals := congrArg Contents.literals hcontents
  refine Eq.trans hliterals.symm (List.flatMap_eq_nil_iff.2 fun t ht => ?_)
  have htext : join ", " ((c.functionTerms call).map (Term.text Uri.isAbsolute)) = "" :=
    (written_terms _).symm.trans (String.isEmpty_iff.1 h)
  have hempty := eq_empty_of_join_eq_empty htext (List.mem_map_of_mem ht)
  cases t with
  | literal s =>
    -- a literal has its quotes
    have hquote : (quote s).toList = [] := congrArg String.toList hempty
    rw [toList_quote] at hquote
    exact absurd hquote (by simp)
  | own | identifier | name | values => rfl

theorem consists_functionPhrase {call : Call} {t : Phrase}
    (h : c.functionPhrase call = .ok t) : t.Consists (c.functionContents call) := by
  obtain ⟨names, hnames, hraw, hcontents⟩ := c.contents_functionTerms call
  have harguments := ((consists_terms _).of_eq hcontents).within_names hnames
  have hname := consists_subject call.attr
  obtain ⟨hlang, hoff⟩ := Render.consists_language call.lang
  unfold functionPhrase at h
  unfold functionContents unquotedFunction functionPredicates uncheckedInFunction
  split at h
  · cases h
  · dsimp only at h
    cases hattr : c.attr.isEmpty with
    | false =>
      simp only [hattr, Bool.not_false, if_true] at h ⊢
      cases hnone : (c.functionArguments call).isEmpty with
      | true =>
        simp only [hnone, if_true] at h ⊢
        obtain rfl := Except.ok.inj h
        exact (c.consists_attributePhrase.application call.name).mono (.refl _)
          (quotedArguments_of_isEmpty hnone).symm rfl (fun _ hn => absurd hn List.not_mem_nil)
          (by simp [attributeContents])
      | false =>
        simp only [hnone, Bool.false_eq_true, if_false] at h ⊢
        obtain rfl := Except.ok.inj h
        have happlied := consists_applied c.attr (c.functionTerms call)
        unfold appliedContents at happlied
        rw [hraw, hcontents] at happlied
        exact (happlied.application call.name).mono (.refl _) rfl rfl hnames (by simp)
    | true =>
      have hval : c.attr ≠ "val" := by
        rintro hval
        rw [hval] at hattr
        exact absurd hattr (by decide)
      simp only [hattr, hval, Bool.not_true, Bool.false_eq_true, if_false, decide_false,
        Bool.false_and] at h ⊢
      cases hcall : call.attr.isEmpty with
      | false =>
        simp only [hcall, Bool.not_false, if_true] at h ⊢
        cases hcount : call.isCount with
        | true =>
          simp only [hcount, if_true] at h ⊢
          obtain rfl := Except.ok.inj h
          exact (hname.counted.compared harguments).application call.name
        | false =>
          simp only [hcount, Bool.false_eq_true, if_false] at h ⊢
          cases hnone : (c.functionArguments call).isEmpty with
          | true =>
            simp only [hnone, if_true] at h ⊢
            obtain rfl := Except.ok.inj h
            exact ((hname.followed hlang hoff).application call.name).mono (.refl _)
              (quotedArguments_of_isEmpty hnone).symm rfl (by simp) rfl
          | false =>
            simp only [hnone, Bool.false_eq_true, if_false] at h ⊢
            obtain rfl := Except.ok.inj h
            exact ((hname.followed hlang hoff).compared harguments).application call.name
      | true =>
        simp only [hcall, Bool.not_true, Bool.false_eq_true, if_false] at h ⊢
        obtain rfl := Except.ok.inj h
        exact harguments.application call.name

/-- The password itself is always quoted. -/
theorem consists_passwordPhrase {call : Call} {t : Phrase}
    (h : c.passwordPhrase call = .ok t) :
    t.Consists { own := [call.attr], literals := call.arguments.map (·.value)
                 predicates := [(.subject, call.attr)] } := by
  unfold passwordPhrase at h
  split at h
  · cases h
  · split at h
    next password hpassword =>
      have hliteral := consists_terms [.literal password.value]
      obtain rfl := Except.ok.inj h
      rw [hpassword]
      exact ((consists_subject call.attr).compared hliteral).application_mark (by decide)
    next => cases h

theorem consists_filterPhrase {directive : Option Phrase} (h : c.filterPhrase = .ok directive) :
    ConsistsAll directive.toList c.filterContents := by
  unfold filterPhrase at h
  unfold filterContents unquotedFilter quotedFilter filterPredicates filterVariables
    uncheckedInFilter
  cases hf : c.filter with
  | none =>
    rw [hf] at h
    obtain rfl := Except.ok.inj h
    exact .nil
  | some f =>
    rw [hf] at h
    dsimp only at h ⊢
    cases hempty : f.isEmpty with
    | true =>
      simp only [hempty, if_true] at h ⊢
      obtain rfl := Except.ok.inj h
      exact .nil
    | false =>
      simp only [hempty, Bool.false_eq_true, if_false] at h ⊢
      obtain ⟨t, ht, rfl⟩ := exists_of_map_eq_ok h
      exact .singleton ((f.consists_phrase ht).within (by decide) (by decide))

theorem consists_countPhrase {t : Phrase} (h : c.countPhrase = .ok t) :
    t.Consists (c.attributeContents ++ c.parameterContents ++ c.filterContents) := by
  obtain ⟨directive, hdirective, rfl⟩ := exists_of_map_eq_ok h
  have hfilter := consists_filterPhrase hdirective
  have hhead := c.consists_attributePhrase.followed c.consists_parameterPhrase.1
    c.consists_parameterPhrase.2
  refine Consists.counted ?_
  cases directive with
  | none =>
    -- no filter is written, so none has strings
    rw [hfilter.eq_empty]
    exact hhead.followed .nil (by decide)
  | some d =>
    exact hhead.followed (hfilter.of_singleton.behind separates_space.2.1)
      (startsOff_mark separates_space)

theorem consists_attributeLinePhrase {t : Phrase} (h : c.attributeLinePhrase = .ok t) :
    t.Consists {
      own := c.unquotedAttributeLine
      predicates := if c.attr.isEmpty then [] else (.subject, c.attr) :: c.orderPredicates
      variableNames := c.orderVariables ++ c.unquotedUses } := by
  unfold attributeLinePhrase at h
  unfold unquotedAttributeLine
  cases hattr : c.attr.isEmpty with
  | true =>
    simp only [hattr, if_true] at h ⊢
    split at h
    · cases h
    · obtain rfl := Except.ok.inj h
      exact ((consists_own c.aliasName).before (by decide)).within_names (by simp)
  | false =>
    simp only [hattr, Bool.false_eq_true, if_false] at h ⊢
    obtain rfl := Except.ok.inj h
    have hname := (consists_aliased (c := c) c.consists_attributePhrase).followed
      c.consists_parameterPhrase.1 c.consists_parameterPhrase.2
    have hline := hname.followed c.consists_expansionPhrase.1 c.consists_expansionPhrase.2
    exact hline.of_eq (by simp [Contents.append_mk, attributeContents, parameterContents])

/-! ### Names of variables -/

theorem mem_namesInClause_of_use {n : String} (h : n ∈ c.unquotedUses) :
    n ∈ Scope.namesInClause c := by
  obtain ⟨u, hu, hname⟩ := List.mem_map.1 h
  exact Scope.mem_namesInClause_iff.2 (.use hu hname)

theorem mem_namesInClause_of_call {call : Call} (hcall : c.call = some call)
    {n : String} (h : n ∈ Scope.namesInCall call) : n ∈ Scope.namesInClause c :=
  Scope.mem_namesInClause_iff.2 (.call hcall (Scope.mem_namesInCall_iff.1 h))

theorem mem_namesInClause_of_filter {n : String} (h : n ∈ c.filterVariables) :
    n ∈ Scope.namesInClause c := by
  unfold filterVariables at h
  cases hf : c.filter with
  | none =>
    rw [hf] at h
    exact absurd h List.not_mem_nil
  | some f =>
    rw [hf] at h
    dsimp only at h
    split at h
    · exact absurd h List.not_mem_nil
    · exact Scope.mem_namesInClause_iff.2 (.filter hf ((Scope.mem_namesInFilter_iff f).1 h))

theorem mem_namesInClause_of_facetFilter {n : String} (h : n ∈ c.facetFilterVariables) :
    n ∈ Scope.namesInClause c := by
  obtain ⟨f, hf, hn⟩ := Scope.mem_getD_map_iff.1 h
  exact Scope.mem_namesInClause_iff.2 (.facetFilter hf ((Scope.mem_namesInFilter_iff f).1 hn))

/-- A variable that results are ordered by is one that the node uses. -/
theorem mem_namesInClause_of_order {n : String} (h : n ∈ c.orderVariables) :
    n ∈ Scope.namesInClause c := by
  obtain ⟨o, ho, rfl⟩ := List.mem_map.1 h
  obtain ⟨kind, hkind⟩ := Option.isSome_iff_exists.1 (List.mem_filter.1 ho).2
  obtain ⟨u, hu, heq⟩ := List.mem_map.1 (Table.mem_of_find?_ofList hkind)
  exact mem_namesInClause_of_use (List.mem_map.2 ⟨u, hu, congrArg Prod.fst heq⟩)

theorem consists_bodyPhrase {t : Phrase} (h : c.bodyPhrase = .ok t) :
    t.Consists c.bodyContents := by
  unfold bodyPhrase at h
  unfold bodyContents unquotedBody quotedBody bodyPredicates uncheckedInBody
  cases hcall : c.call with
  | some call =>
    rw [hcall] at h
    dsimp only at h ⊢
    obtain ⟨inside, hinside, rfl⟩ := exists_of_map_eq_ok h
    split at hinside
    next hname =>
      simp only [if_pos hname]
      exact (consists_aliased (consists_passwordPhrase hinside)).within_names
        fun _ hn => absurd hn List.not_mem_nil
    next hname =>
      simp only [if_neg hname]
      exact (consists_aliased (consists_functionPhrase hinside)).within_names
        fun _ => mem_namesInClause_of_call hcall
  | none =>
    rw [hcall] at h
    cases hmath : c.math with
    | some e =>
      rw [hmath] at h
      obtain ⟨inside, hinside, rfl⟩ := exists_of_map_eq_ok h
      exact (consists_aliased (MathExpr.consists_phrase hinside)).within_names
        fun _ hn => absurd hn List.not_mem_nil
    | none =>
      rw [hmath] at h
      dsimp only at h ⊢
      cases hcount : c.isCount with
      | true =>
        simp only [hcount, if_true] at h ⊢
        obtain ⟨inside, hinside, rfl⟩ := exists_of_map_eq_ok h
        refine (consists_aliased (consists_countPhrase hinside)).mono (.refl _) rfl rfl ?_ rfl
        intro n hn
        rcases List.mem_append.1 hn with hn | hn
        · exact mem_namesInClause_of_order hn
        · exact mem_namesInClause_of_filter hn
      | false =>
        simp only [hcount, Bool.false_eq_true, if_false] at h ⊢
        cases hval : decide (c.attr = "val") && !c.uses.isEmpty with
        | true =>
          have hread := consists_term (.values (c.uses.map fun u => .reference u.name))
          simp only [hval, if_true, Bool.or_true] at h ⊢
          obtain rfl := Except.ok.inj h
          have hvariables : (Term.values (c.uses.map fun u => .reference u.name)).contents =
              { own := c.unquotedUses, variableNames := c.unquotedUses } :=
            Render.contents_references c.uses
          exact (consists_aliased (hread.of_eq hvariables)).within_names
            fun _ hn => mem_namesInClause_of_use hn
        | false =>
          simp only [hval, Bool.false_eq_true, if_false, Bool.or_false] at h ⊢
          refine (consists_attributeLinePhrase h).within_names fun n hn => ?_
          rcases List.mem_append.1 hn with hn | hn
          · exact mem_namesInClause_of_order hn
          · exact mem_namesInClause_of_use hn

/-! ### Directives -/

theorem consists_facetFilterPhrase {directive : Option Phrase}
    (h : c.facetFilterPhrase c.label = .ok directive) :
    ConsistsAll directive.toList c.facetFilterContents := by
  unfold facetFilterPhrase at h
  unfold facetFilterContents unquotedFacetFilter quotedFacetFilter facetFilterPredicates
    facetFilterVariables uncheckedInFacetFilter
  cases hf : c.facetFilter with
  | none =>
    rw [hf] at h
    obtain rfl := Except.ok.inj h
    exact .nil
  | some f =>
    rw [hf] at h
    obtain ⟨t, ht, rfl⟩ := exists_of_map_eq_ok h
    exact .singleton ((f.consists_phrase ht).within (by decide) (by decide))

theorem consists_facetBindingPhrase (name key : String) :
    (facetBindingPhrase name key).Consists { own := [name, key] } :=
  (consists_own name).between (consists_own key) (by decide)

theorem consists_facetOrderPhrases (c : Clause) :
    ConsistsAll c.facetOrderPhrases { own := c.unquotedFacetOrder } := by
  have hlead := leads_direction c.facetDescending
  unfold facetOrderPhrases unquotedFacetOrder
  split
  · exact .nil
  · cases c.facetVariables.find? c.facetOrder with
    | some name =>
      exact .singleton ((consists_facetBindingPhrase name c.facetOrder).behind hlead)
    | none => exact .singleton ((consists_own c.facetOrder).behind hlead)

theorem consists_facetKeyPhrase (k : FacetKey) :
    (facetKeyPhrase k).Consists { own := Render.unquotedLabel k.aliasName ++ [k.key] } :=
  (consists_named k.aliasName).1.leading (consists_own k.key) (consists_named k.aliasName).2

theorem consists_facetPhrase (c : Clause) (hasChildren : Bool) :
    ConsistsAll (c.facetPhrase hasChildren).toList { own := c.unquotedFacets } := by
  unfold unquotedFacets facetPhrase
  cases c.facets with
  | none => exact .nil
  | some request =>
    have hbindings := (ConsistsAll.map
      (c.facetVariables.entries.filter fun e => e.1 != c.facetOrder) fun e _ =>
        consists_facetBindingPhrase e.2 e.1).of_eq (Contents.ofEach_own _ _)
    have hkeys := (ConsistsAll.map
      (request.keys.filter fun k => !c.facetVariables.contains k.key && k.key != c.facetOrder)
        fun k _ => consists_facetKeyPhrase k).of_eq (Contents.ofEach_own _ _)
    have hparts := (c.consists_facetOrderPhrases.append hbindings).append hkeys
    dsimp only [Option.map_some, Option.toList_some]
    unfold facetBindingPhrases facetKeyPhrases
    split
    · exact .singleton (.mark (by decide))
    · split
      next hempty =>
        rw [List.isEmpty_iff.1 hempty] at hparts
        refine .singleton (.of_eq ?_ hparts.eq_empty.symm)
        cases hasChildren
        · exact .mark (by decide)
        · exact .mark (by decide)
      next => exact .singleton (hparts.listed.within (by decide) (by decide))

theorem consists_groupPhrase (c : Clause) :
    ConsistsAll c.groupPhrase.toList c.groupContents := by
  have hkey : ∀ g : GroupKey, (named g.aliasName ++ predicate .grouping g.attr ++
      Render.languagesPhrase g.langs).Consists {
        own := Render.unquotedLabel g.aliasName ++ Render.unquotedAttribute g.attr g.langs
        predicates := [(.grouping, g.attr)] } := by
    intro g
    have hname := (consists_named g.aliasName).1.leading
      (consists_term (.name (.predicate .grouping g.attr))) (consists_named g.aliasName).2
    exact (Render.consists_attribute hname g.langs).mono
      (by simp [Term.contents, Term.strings, Name.word, Render.unquotedAttribute]) rfl rfl
      (fun _ h => h) rfl
  have hkeys := ConsistsAll.map c.groupKeys fun g _ => hkey g
  unfold groupPhrase groupContents unquotedGroups
  split
  next hempty =>
    rw [List.isEmpty_iff.1 hempty]
    exact .nil
  next =>
    have hword : Inert "@groupby" := by decide
    refine .singleton ((hkeys.listed.application_mark hword).of_eq ?_)
    simp only [Contents.ofEach, Contents.flatMap_nil, ← List.map_eq_flatMap]

theorem consists_flagPhrases (c : Clause) : ConsistsAll c.flagPhrases {} := by
  have hflag : ∀ (b : Bool) {w : String} (hw : w.toList.all Mark.admits = true), Inert w →
      ConsistsAll (if b then [mark w hw] else []) {} := by
    intro b w hw h
    split
    · exact .singleton (.mark h)
    · exact .nil
  exact (((hflag _ _ (by decide)).append (hflag _ _ (by decide))).append
    (hflag _ _ (by decide))).append (hflag _ _ (by decide))

/-- The directives of a node that is written, each behind a space. -/
theorem exists_directivePhrase_eq {withFilter hasChildren : Bool} {t : Phrase}
    (h : c.directivePhrase withFilter hasChildren = .ok t) :
    ∃ filter facetFilter, (if withFilter then c.filterPhrase else .ok none) = .ok filter ∧
      c.facetFilterPhrase c.label = .ok facetFilter ∧
      t = joined [] ((filter.toList ++ facetFilter.toList ++ (c.facetPhrase hasChildren).toList ++
        c.groupPhrase.toList ++ c.flagPhrases).map (mark " " ++ ·)) := by
  unfold directivePhrase at h
  by_cases hw : withFilter = true
  · rw [if_pos hw] at h ⊢
    obtain ⟨filter, hfilter, h⟩ := exists_of_bind_eq_ok h
    obtain ⟨facetFilter, hfacetFilter, h⟩ := exists_of_bind_eq_ok h
    exact ⟨filter, facetFilter, hfilter, hfacetFilter, (Except.ok.inj h).symm⟩
  · rw [if_neg hw] at h ⊢
    obtain ⟨filter, hfilter, h⟩ := exists_of_bind_eq_ok h
    obtain ⟨facetFilter, hfacetFilter, h⟩ := exists_of_bind_eq_ok h
    exact ⟨filter, facetFilter, hfilter, hfacetFilter, (Except.ok.inj h).symm⟩

/-- The text of the directives. -/
theorem exists_directives_eq {withFilter hasChildren : Bool} {text : String}
    (h : c.directives withFilter hasChildren = .ok text) :
    ∃ filter facetFilter : Option String,
      text = join "" ((filter.toList ++ facetFilter.toList ++
        (c.facetDirective hasChildren).toList ++ c.groupDirective.toList ++
        c.flagDirectives).map (" " ++ ·)) := by
  obtain ⟨t, ht, rfl⟩ := exists_of_map_eq_ok h
  obtain ⟨filter, facetFilter, -, -, rfl⟩ := exists_directivePhrase_eq ht
  exact ⟨_, _, c.written_directives filter facetFilter hasChildren⟩

theorem consists_directivePhrase {withFilter hasChildren : Bool} {t : Phrase}
    (h : c.directivePhrase withFilter hasChildren = .ok t) :
    t.Consists (c.directiveContents withFilter) ∧ StartsOff t.written := by
  obtain ⟨filter, facetFilter, hfilter, hfacetFilter, rfl⟩ := exists_directivePhrase_eq h
  have hwith : ConsistsAll filter.toList (if withFilter then c.filterContents else {}) := by
    by_cases hw : withFilter = true
    · rw [if_pos hw] at hfilter ⊢
      exact consists_filterPhrase hfilter
    · rw [if_neg hw] at hfilter ⊢
      obtain rfl := Except.ok.inj hfilter
      exact .nil
  have hall := (((hwith.append (consists_facetFilterPhrase hfacetFilter)).append
    (c.consists_facetPhrase hasChildren)).append c.consists_groupPhrase).append
      c.consists_flagPhrases
  obtain ⟨hdirectives, hstart⟩ := (hall.behindEach (p := by decide)
    separates_space.2.1).concat fun t ht => by
    obtain ⟨d, -, rfl⟩ := List.mem_map.1 ht
    exact startsOff_mark separates_space
  refine ⟨hdirectives.of_eq ?_, hstart⟩
  cases withFilter
  all_goals
    simp [directiveContents, unquotedDirectives, quotedDirectives, directivePredicates,
      uncheckedInDirectives, filterContents, facetFilterContents, groupContents,
      Contents.append_mk]

theorem mem_namesInClause_of_directives {withFilter : Bool} {n : String}
    (h : n ∈ (c.directiveContents withFilter).variableNames) : n ∈ Scope.namesInClause c := by
  rcases List.mem_append.1 h with h | h
  · split at h
    · exact mem_namesInClause_of_filter h
    · exact absurd h List.not_mem_nil
  · exact mem_namesInClause_of_facetFilter h

/-! ### Lines -/

theorem leads_indent (depth : Nat) : Leads (Text.indent depth) := by
  have hblank : ∀ c ∈ (Text.indent depth).toList, c = ' ' := by
    intro c hc
    unfold Text.indent at hc
    rw [String.toList_ofList] at hc
    exact List.eq_of_mem_replicate hc
  refine ⟨inert_of_plain (List.all_eq_true.2 fun c hc => ?_),
    any_lookupWord_eq_false_iff.2 fun c hc => ?_⟩
  · rw [hblank c hc]
    decide
  · rw [hblank c (List.mem_of_getLast? hc)]
    decide

theorem consists_indented (depth : Nat) (c : Clause) :
    (Phrase.indent depth ++ c.bindingPhrase).Consists { own := [c.variableName] } ∧
      EndsOff (Phrase.indent depth ++ c.bindingPhrase).written := by
  obtain ⟨hbinding, hend⟩ := c.consists_bindingPhrase
  refine ⟨hbinding.behind (leads_indent depth), ?_⟩
  rw [written_append, written_indent]
  exact endsOff_append (leads_indent depth).2 hend

/-- The text of the binding at the start of a line. -/
theorem tallies_indentedBinding (depth : Nat) (c : Clause) :
    Tallies (Text.indent depth ++ c.bindingText) [c.variableName] ∧
      EndsOff (Text.indent depth ++ c.bindingText) := by
  have htext : (Phrase.indent depth ++ c.bindingPhrase).written =
      Text.indent depth ++ c.bindingText := by
    rw [written_append, written_indent]
    rfl
  obtain ⟨hbinding, hend⟩ := consists_indented depth c
  exact htext ▸ ⟨hbinding.tallies, hend⟩

theorem consists_childPhrase {depth : Nat} {hasChildren : Bool} {t : Phrase}
    (h : c.childPhrase depth hasChildren = .ok t) : t.Consists c.childContents := by
  obtain ⟨body, hbody, h⟩ := exists_of_bind_eq_ok h
  obtain ⟨directives, hdirectives, h⟩ := exists_of_bind_eq_ok h
  obtain rfl := Except.ok.inj h
  obtain ⟨hbinding, hend⟩ := consists_indented depth c
  obtain ⟨hdirs, hstart⟩ := consists_directivePhrase hdirectives
  refine ((hbinding.leading (consists_bodyPhrase hbody) hend).followed hdirs hstart).mono
    (.refl _) rfl rfl (fun n hn => ?_) rfl
  rcases List.mem_append.1 hn with hn | hn
  · exact hn
  · exact mem_namesInClause_of_directives hn

/-- The line of a root that is written, with the call as it is written. -/
theorem exists_rootPhrase_eq {depth : Nat} {hasChildren : Bool} {t : Phrase}
    (h : c.rootPhrase depth hasChildren = .ok t) :
    ∃ function directives,
      ((c.call = none ∧ function = []) ∨
        ∃ call inside, c.call = some call ∧ c.functionPhrase call = .ok inside ∧
          function = [mark "func: " ++ inside]) ∧
      c.directivePhrase true hasChildren = .ok directives ∧
      t = Phrase.indent depth ++ c.bindingPhrase ++ own c.resultName ++ mark "(" ++
          listed (function ++ c.orderPhrases ++ c.argumentPhrases) ++ mark ")" ++ directives ++
        mark " \x7b" := by
  unfold rootPhrase at h
  by_cases hname : c.resultName.isEmpty = true
  · rw [if_pos hname] at h
    obtain ⟨_, hthrow, _⟩ := exists_of_bind_eq_ok h
    cases hthrow
  · rw [if_neg hname] at h
    cases hcall : c.call with
    | none =>
      rw [hcall] at h
      obtain ⟨function, hnone, h⟩ := exists_of_bind_eq_ok h
      obtain rfl := Except.ok.inj hnone
      obtain ⟨directives, hdirectives, h⟩ := exists_of_bind_eq_ok h
      exact ⟨[], directives, Or.inl ⟨rfl, rfl⟩, hdirectives, (Except.ok.inj h).symm⟩
    | some call =>
      rw [hcall] at h
      obtain ⟨function, hfunction, h⟩ := exists_of_bind_eq_ok h
      obtain ⟨inside, hinside, rfl⟩ := exists_of_map_eq_ok hfunction
      obtain ⟨directives, hdirectives, h⟩ := exists_of_bind_eq_ok h
      exact ⟨_, directives, Or.inr ⟨call, inside, rfl, hinside, rfl⟩, hdirectives,
        (Except.ok.inj h).symm⟩

/-- The text of the line of a root. -/
theorem exists_rootLine_eq {depth : Nat} {hasChildren : Bool} {text : String}
    (h : c.rootLine depth hasChildren = .ok text) :
    ∃ function directives,
      ((c.call = none ∧ function = []) ∨
        ∃ call inside, c.call = some call ∧ c.functionText call = .ok inside ∧
          function = ["func: " ++ inside]) ∧
      c.directives true hasChildren = .ok directives ∧
      text = Text.indent depth ++ c.bindingText ++ c.resultName ++ "(" ++
          join ", " (function ++ c.orderTexts ++ c.argumentTexts) ++ ")" ++ directives ++
        " \x7b" := by
  obtain ⟨t, ht, rfl⟩ := exists_of_map_eq_ok h
  obtain ⟨function, directives, hfunction, hdirectives, rfl⟩ := exists_rootPhrase_eq ht
  refine ⟨function.map written, directives.written, ?_,
    congrArg (Except.map written) hdirectives, ?_⟩
  · rcases hfunction with ⟨hnone, rfl⟩ | ⟨call, inside, hsome, hinside, rfl⟩
    · exact Or.inl ⟨hnone, rfl⟩
    · exact Or.inr ⟨call, inside.written, hsome, congrArg (Except.map written) hinside, by simp⟩
  · simp only [written_append, written_indent, written_own, written_mark, written_listed,
      List.map_append, bindingText, orderTexts, argumentTexts]

theorem consists_rootPhrase {depth : Nat} {hasChildren : Bool} {t : Phrase}
    (h : c.rootPhrase depth hasChildren = .ok t) : t.Consists c.rootContents := by
  obtain ⟨function, directives, hfunction, hdirectives, rfl⟩ := exists_rootPhrase_eq h
  -- the one word for a lookup that a root writes itself
  have hword : (mark "func: ").Consists { own := ["func:"] } :=
    { Holds.nil with
      own := fun _ h => absurd h List.not_mem_nil
      tallies := fun _ => by decide
      oneLine := by simp [mark] }
  have hcall : ConsistsAll function {
      own := c.rootMark ++ c.unquotedRootCall
      literals := (c.call.map Call.quotedArguments).getD []
      predicates := (c.call.map c.functionPredicates).getD []
      variableNames := (c.call.map Scope.namesInCall).getD []
      unchecked := (c.call.map c.uncheckedInFunction).getD [] } := by
    unfold rootMark unquotedRootCall
    rcases hfunction with ⟨hnone, rfl⟩ | ⟨call, inside, hsome, hinside, rfl⟩
    · rw [hnone]
      exact .nil
    · rw [hsome]
      exact .singleton (hword.leading (consists_functionPhrase hinside) (by decide))
  obtain ⟨hbinding, hend⟩ := consists_indented depth c
  obtain ⟨hdirs, hstart⟩ := consists_directivePhrase hdirectives
  have hparts := (hcall.append c.consists_orderPhrases).append c.consists_argumentPhrases
  have hopen := (hbinding.leading (consists_own c.resultName) hend).between (p := by decide)
    hparts.listed separates_open
  have hline := ((hopen.before (p := by decide) separates_close.2.2).followed hdirs hstart).before
    (p := by decide) (by decide : Trails " \x7b")
  refine hline.mono ?_ ?_ ?_ (fun n hn => ?_) ?_
  · simp only [Contents.own_append, rootContents, unquotedRootLine, List.append_assoc]
    exact List.perm_append_comm_assoc [c.variableName, c.resultName] _ _
  · simp only [Contents.literals_append, rootContents, quotedRootLine, orderContents,
      List.append_nil]
    rfl
  · simp only [Contents.predicates_append, rootContents, rootPredicates, orderContents,
      List.append_nil]
    rfl
  · rcases List.mem_append.1 hn with hn | hn
    · rcases List.mem_append.1 hn with hn | hn
      · exact absurd hn List.not_mem_nil
      · rw [Contents.variableNames_append, List.append_nil] at hn
        rcases List.mem_append.1 hn with hn | hn
        · obtain ⟨call, hcall, hn⟩ := Scope.mem_getD_map_iff.1 hn
          exact mem_namesInClause_of_call hcall hn
        · exact mem_namesInClause_of_order hn
    · exact mem_namesInClause_of_directives hn
  · simp only [Contents.unchecked_append, rootContents, uncheckedInRoot, orderContents,
      List.append_nil]
    rfl

end Clause

/-! ## Nodes and blocks -/

theorem consists_closingPhrase (depth : Nat) : (closingPhrase depth).Consists {} :=
  (Consists.mark (by decide : Inert "\x7d")).behind (Clause.leads_indent depth)

namespace Query

variable {depth : Nat} {ts : List Phrase}

/-- The lines of a node below a root: an internal node hides the nodes below it, and any other
that has some opens a block for them. -/
theorem childPhrases_cases {clause : Clause} {fallback : Option Json}
    {children : List Query} (h : childPhrases depth ⟨clause, fallback, children⟩ = .ok ts) :
    ∃ line, clause.childPhrase depth (!children.isEmpty) = .ok line ∧
      ((clause.isInternal = true ∧ ts = [line]) ∨
        (clause.isInternal = false ∧ children = [] ∧ ts = [line]) ∨
        (clause.isInternal = false ∧ children ≠ [] ∧
          ∃ below, allChildPhrases (depth + 1) children = .ok below ∧
            ts = (line ++ mark " \x7b") :: below ++ [closingPhrase depth])) := by
  rw [childPhrases] at h
  cases hline : clause.childPhrase depth (!children.isEmpty) with
  | error e => rw [hline] at h; cases h
  | ok line =>
    rw [hline] at h
    refine ⟨line, rfl, ?_⟩
    cases hinternal : clause.isInternal with
    | true =>
      rw [hinternal] at h
      exact Or.inl ⟨rfl, (Except.ok.inj h).symm⟩
    | false =>
      rw [hinternal] at h
      refine Or.inr ?_
      cases children with
      | nil => exact Or.inl ⟨rfl, rfl, (Except.ok.inj h).symm⟩
      | cons q rest =>
        obtain ⟨below, hbelow, hlines⟩ := exists_of_map_eq_ok h
        exact Or.inr ⟨rfl, List.cons_ne_nil q rest, below, hbelow, hlines.symm⟩

/-- The texts of the lines of a node below a root. -/
theorem childLines_cases {clause : Clause} {fallback : Option Json}
    {children : List Query} {lines : List String}
    (h : childLines depth ⟨clause, fallback, children⟩ = .ok lines) :
    ∃ line, clause.childLine depth (!children.isEmpty) = .ok line ∧
      ((clause.isInternal = true ∧ lines = [line]) ∨
        (clause.isInternal = false ∧ children = [] ∧ lines = [line]) ∨
        (clause.isInternal = false ∧ children ≠ [] ∧
          ∃ below, allChildLines (depth + 1) children = .ok below ∧
            lines = (line ++ " \x7b") :: below ++ [closingLine depth])) := by
  obtain ⟨ts, hts, rfl⟩ := exists_of_map_eq_ok h
  obtain ⟨line, hline, hcases⟩ := childPhrases_cases hts
  refine ⟨line.written, congrArg (Except.map written) hline, ?_⟩
  rcases hcases with ⟨hinternal, rfl⟩ | ⟨hinternal, hnil, rfl⟩ |
    ⟨hinternal, hne, below, hbelow, rfl⟩
  · exact Or.inl ⟨hinternal, rfl⟩
  · exact Or.inr (Or.inl ⟨hinternal, hnil, rfl⟩)
  · refine Or.inr (Or.inr ⟨hinternal, hne, below.map Phrase.written,
      congrArg (Except.map _) hbelow, ?_⟩)
    simp [closingLine]

theorem allChildLines_cons_eq_ok {q : Query} {rest : List Query} {lines : List String} :
    allChildLines depth (q :: rest) = .ok lines ↔ ∃ first more, q.childLines depth = .ok first ∧
      allChildLines depth rest = .ok more ∧ lines = first ++ more := by
  rw [allChildLines_cons]
  constructor
  · intro h
    cases hq : q.childLines depth with
    | error e => rw [hq] at h; cases h
    | ok first =>
      rw [hq] at h
      obtain ⟨more, hmore, hlines⟩ := exists_of_map_eq_ok h
      exact ⟨first, more, rfl, hmore, hlines.symm⟩
  · rintro ⟨first, more, hfirst, hmore, rfl⟩
    rw [hfirst, hmore]
    rfl

theorem names_referencesOf (clause : Clause) (fallback : Option Json)
    (children : List Query) :
    (Scope.referencesOf (⟨clause, fallback, children⟩ : Query)).map (·.name) =
      Scope.namesInClause clause ++ (Scope.references children).map (·.name) := by
  rw [Scope.referencesOf, List.map_append, List.map_map]
  exact congrArg (· ++ _) (List.map_id _)

/-- What a node holds whose children are written, if it has any. -/
theorem contentsBelow_eq {clause : Clause} {children : List Query}
    (h : clause.isInternal = false ∨ children = []) (fallback : Option Json) :
    contentsBelow ⟨clause, fallback, children⟩ =
      clause.childContents ++ allContentsBelow children := by
  unfold contentsBelow
  rw [names_referencesOf, unquotedBelow, quotedBelow, predicatesBelow, uncheckedBelow]
  rcases h with h | rfl
  · rw [h]
    rfl
  · simp only [allUnquotedBelow, allQuotedBelow, allPredicatesBelow, allUncheckedBelow, ite_self]
    rfl

/-- An internal node holds what its line does. Its children are looked at by the check alone. -/
theorem consists_internal {clause : Clause} {line : Phrase}
    (hinternal : clause.isInternal = true) (h : line.Consists clause.childContents)
    (fallback : Option Json) (children : List Query) :
    line.Consists (contentsBelow ⟨clause, fallback, children⟩) := by
  refine h.mono ?_ ?_ ?_ (fun n hn => ?_) ?_
  · rw [contentsBelow, unquotedBelow, if_pos hinternal, List.append_nil]
    rfl
  · rw [contentsBelow, quotedBelow, if_pos hinternal, List.append_nil]
    rfl
  · rw [contentsBelow, predicatesBelow, if_pos hinternal, List.append_nil]
    rfl
  · rw [contentsBelow, names_referencesOf]
    exact List.mem_append_left _ hn
  · rw [contentsBelow, uncheckedBelow, if_pos hinternal, List.append_nil]
    rfl

mutual

/-- A node below a root, line by line. -/
theorem consists_childPhrases {depth : Nat} {ts : List Phrase} :
    ∀ q : Query, q.childPhrases depth = .ok ts → ConsistsAll ts q.contentsBelow
  | ⟨clause, fallback, children⟩ => by
    intro h
    obtain ⟨line, hline, hlines⟩ := childPhrases_cases h
    have hown := Clause.consists_childPhrase hline
    rcases hlines with ⟨hinternal, rfl⟩ | ⟨hinternal, rfl, rfl⟩ | ⟨hinternal, -, below, hbelow, rfl⟩
    · exact .singleton (consists_internal hinternal hown fallback children)
    · rw [contentsBelow_eq (.inr rfl) fallback]
      exact .cons hown .nil
    · -- the line opens the children, and a line of its own closes them
      rw [contentsBelow_eq (.inl hinternal) fallback]
      have hlines := ConsistsAll.cons (hown.before (p := by decide) (by decide : Trails " \x7b"))
        (consists_allChildPhrases children hbelow)
      exact (hlines.append (.singleton (consists_closingPhrase depth))).of_eq
        (Contents.append_empty _)

/-- Nodes below a root, one by one. -/
theorem consists_allChildPhrases {depth : Nat} {ts : List Phrase} :
    ∀ qs : List Query, allChildPhrases depth qs = .ok ts → ConsistsAll ts (allContentsBelow qs)
  | [] => by
    intro h
    obtain rfl := Except.ok.inj h
    exact .nil
  | q :: rest => by
    intro h
    rw [allChildPhrases] at h
    cases hq : q.childPhrases depth with
    | error e => rw [hq] at h; cases h
    | ok first =>
      rw [hq] at h
      obtain ⟨more, hmore, rfl⟩ := exists_of_map_eq_ok h
      have hall := (consists_childPhrases q hq).append (consists_allChildPhrases rest hmore)
      refine hall.of_eq ?_
      rw [contentsBelow, allContentsBelow, allContentsBelow, Scope.references, List.map_append]
      rfl

end

theorem references_eq_flatMap (qs : List Query) :
    Scope.references qs = qs.flatMap Scope.referencesOf := by
  induction qs with
  | nil => rfl
  | cons q rest ih => rw [Scope.references, List.flatMap_cons, ih]

theorem consists_rootPhrases {depth : Nat} {q : Query} {ts : List Phrase}
    (h : q.rootPhrases depth = .ok ts) : ConsistsAll ts q.contents := by
  obtain ⟨clause, fallback, children⟩ := q
  obtain ⟨line, hline, h⟩ := exists_of_bind_eq_ok h
  obtain ⟨below, hbelow, h⟩ := exists_of_bind_eq_ok h
  obtain rfl := Except.ok.inj h
  have hlines := ConsistsAll.cons (Clause.consists_rootPhrase hline)
    (consists_allChildPhrases children hbelow)
  refine (hlines.append (.singleton (consists_closingPhrase depth))).of_eq ?_
  rw [Contents.append_empty, contents, names_referencesOf, unquoted, ← List.append_assoc]
  rfl

theorem consists_allRootPhrases {depth : Nat} {qs : List Query} {ts : List Phrase}
    (h : allRootPhrases depth qs = .ok ts) : ConsistsAll ts (.ofEach qs contents) := by
  induction qs generalizing ts with
  | nil =>
    obtain rfl := Except.ok.inj h
    exact .nil
  | cons q rest ih =>
    obtain ⟨first, hfirst, h⟩ := exists_of_bind_eq_ok h
    obtain ⟨more, hmore, h⟩ := exists_of_bind_eq_ok h
    obtain rfl := Except.ok.inj h
    exact (consists_rootPhrases hfirst).append (ih hmore)

end Query

namespace Block

variable {b : Block}

theorem consists_headerPhrase (b : Block) :
    b.headerPhrase.Consists { own := b.unquotedHeader } := by
  have hname : (Phrase.unlessEmpty b.aliasName fun a => mark " " ++ own a).Consists
      { own := [b.aliasName] } := by
    unfold Phrase.unlessEmpty
    split
    next hempty =>
      rw [String.isEmpty_iff.1 hempty]
      exact .nil_empty
    next => exact (consists_own _).behind separates_space.2.1
  have hoperation := hname.behind (p := by decide) (by decide : Leads "query")
  unfold headerPhrase unquotedHeader
  dsimp only
  split
  next htypes =>
    have hdeclared := (ConsistsAll.map b.variableTypes.entries fun e _ =>
      consists_entry e.1 e.2).of_eq (Contents.ofEach_own _ _)
    exact (hoperation.between hdeclared.listed separates_open).before (by decide)
  next htypes =>
    have hnone : b.variableTypes.entries = [] := by simpa [Table.isEmpty] using htypes
    rw [hnone]
    split
    · exact hoperation.before (by decide)
    next hempty =>
      have hname : b.aliasName = "" := by simpa using hempty
      rw [hname]
      exact Consists.nil_empty.followed (.mark (by decide)) (by decide)

/-- **The lines of a block consist of what the block holds.** -/
theorem consists_phrases {ts : List Phrase} (h : b.phrases = .ok ts) :
    ConsistsAll ts b.contents := by
  obtain ⟨below, hbelow, rfl⟩ := exists_of_map_eq_ok h
  have hlines := ConsistsAll.cons b.consists_headerPhrase (Query.consists_allRootPhrases hbelow)
  refine (hlines.append (.singleton (.mark (by decide)))).of_eq ?_
  rw [Contents.append_empty, contents, Query.references_eq_flatMap, List.map_flatMap]
  rfl

theorem exists_phrase_eq {t : Phrase} (h : b.phrase = .ok t) :
    Scope.check b.queries = .ok () ∧ ∃ ts, b.phrases = .ok ts ∧ t = joined [.lineBreak] ts := by
  obtain ⟨_, hcheck, h⟩ := exists_of_bind_eq_ok h
  obtain ⟨ts, hts, h⟩ := exists_of_bind_eq_ok h
  exact ⟨hcheck, ts, hts, (Except.ok.inj h).symm⟩

/-- **What a block is written with holds what the block holds.** -/
theorem holds_phrase {t : Phrase} (h : b.phrase = .ok t) : t.Holds b.contents := by
  obtain ⟨-, ts, hts, rfl⟩ := exists_phrase_eq h
  have hbreak : Phrase.Holds [.lineBreak] { own := [] } := { Holds.nil with }
  exact ((consists_phrases hts).holds_joined hbreak).mono (by simp) rfl rfl (fun _ hn => hn) rfl

theorem exists_render_eq {text : String} (h : b.render = .ok text) :
    ∃ lines, b.lines = .ok lines ∧ text = normalize (join "\n" lines) := by
  obtain ⟨t, ht, rfl⟩ := exists_of_map_eq_ok h
  obtain ⟨-, ts, hts, rfl⟩ := exists_phrase_eq ht
  exact ⟨ts.map Phrase.written, congrArg _ hts, congrArg normalize (written_joined _ ts)⟩

/-- What is said of the strings of a block is said of all that its text has without quotes, if it
is said of the word that opens lookups. -/
theorem forall_own {P : String → Prop} (hmark : P "func:") (h : ∀ s ∈ b.unquoted, P s) :
    ∀ s ∈ b.contents.own, P s := by
  unfold unquoted at h
  rw [List.forall_mem_append] at h
  refine List.forall_mem_append.2 ⟨h.1, fun s hs => ?_⟩
  obtain ⟨q, hq, hs⟩ := List.mem_flatMap.1 hs
  rcases List.mem_append.1 hs with hs | hs
  · unfold Clause.rootMark at hs
    split at hs
    · rw [List.mem_singleton.1 hs]
      exact hmark
    · exact absurd hs List.not_mem_nil
  · exact h.2 s (List.mem_flatMap.2 ⟨q, hq, hs⟩)

theorem lookupsIn_roots (qs : List Query) :
    lookupsIn (qs.flatMap fun q => q.clause.rootMark ++ q.unquoted)
      = (qs.filter fun q => q.clause.call.isSome).length
        + lookupsIn (qs.flatMap Query.unquoted) := by
  induction qs with
  | nil => rfl
  | cons q rest ih =>
    have hmark : lookupsIn q.clause.rootMark = if q.clause.call.isSome = true then 1 else 0 := by
      unfold Clause.rootMark
      split <;> decide
    simp only [List.flatMap_cons, lookupsIn_append, List.filter_cons]
    rw [hmark, ih]
    split
    · rw [List.length_cons]
      omega
    · omega

/-- **A block opens one lookup for each root with a call**, and beside these only the
lookups that its unquoted strings open, if those close their literals. -/
theorem lookups_render {text : String} (h : b.render = .ok text)
    (hclosed : ∀ s ∈ b.unquoted, ClosesLiterals s) :
    lookups text
      = (b.queries.filter fun q => q.clause.call.isSome).length + lookupsIn b.unquoted := by
  obtain ⟨lines, hlines, rfl⟩ := exists_render_eq h
  obtain ⟨ts, hts, rfl⟩ := exists_of_map_eq_ok hlines
  have hjoin := (consists_phrases hts).tallies.join (by decide : Separates "\n")
  rw [lookups_normalize, (hjoin (forall_own (by decide) hclosed)).2]
  unfold contents unquotedHeader unquoted
  rw [lookupsIn_append, lookupsIn_roots, lookupsIn_append]
  omega

end Block

end Dql
