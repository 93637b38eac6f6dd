import Dql.Proofs.Render.Block
import Dql.Proofs.Text.SingleSpaces

/-!
# Which variables the text of a block binds

A block declares every variable that one of its nodes or facet keys is bound to. Its text
binds those of the nodes that are written, and of these nodes' facets those that the facet
directive lists: `Block.boundNames`. Each of these is bound by its name in front of `as`
(`bound_in_text`), in the lines as they are put together, and behind layout too if the name
holds no other blanks than single spaces between its words.

The other declarations leave no trace (`unbound_declarations`): nodes below an internal
node are not written, and the bindings of facets are not if no facets are asked for, or
all of them together.
-/

namespace Dql

open Text

/-! ## Texts within texts -/

namespace Text

/-- A text stands in another one. -/
def Within (s t : String) : Prop := s.toList <:+: t.toList

instance (s t : String) : Decidable (Within s t) := inferInstanceAs (Decidable (_ <:+: _))

namespace Within

variable {s t u : String}

theorem self (s : String) : Within s s := List.infix_rfl

theorem trans (h : Within s t) (h' : Within t u) : Within s u := List.IsInfix.trans h h'

theorem before (h : Within s t) (u : String) : Within s (t ++ u) := by
  refine h.trans ?_
  unfold Within
  rw [String.toList_append]
  exact (List.prefix_append _ _).isInfix

theorem behind (h : Within s t) (u : String) : Within s (u ++ t) := by
  refine h.trans ?_
  unfold Within
  rw [String.toList_append]
  exact (List.suffix_append _ _).isInfix

end Within

/-- A text of a list stands in what the list is joined to, behind what stands in front of
that or behind the separator. -/
theorem exists_within_join {sep t : String} {ts : List String} (h : t ∈ ts) (front : String) :
    ∃ mark ∈ [front, sep], Within (mark ++ t) (front ++ join sep ts) := by
  induction ts generalizing front with
  | nil => exact absurd h List.not_mem_nil
  | cons first ts ih =>
    cases ts with
    | nil =>
      rw [List.mem_singleton.1 h]
      exact ⟨front, List.mem_cons_self, Within.self _⟩
    | cons next ts =>
      rw [join_cons_cons]
      rcases List.mem_cons.1 h with rfl | h
      · refine ⟨front, List.mem_cons_self, ?_⟩
        rw [String.append_assoc, ← String.append_assoc]
        exact (Within.self _).before _
      · obtain ⟨mark, hmark, hwithin⟩ := ih h sep
        refine ⟨mark, List.mem_cons_of_mem _ ?_, ?_⟩
        · rcases List.mem_cons.1 hmark with rfl | hmark
          · exact List.mem_cons_self
          · exact hmark
        · rw [String.append_assoc, ← String.append_assoc]
          exact hwithin.behind _

theorem within_join {sep t : String} {ts : List String} (h : t ∈ ts) :
    Within t (join sep ts) := by
  have hjoin : ∃ mark ∈ ["", sep], Within (mark ++ t) ("" ++ join sep ts) :=
    exists_within_join h ""
  obtain ⟨mark, -, hwithin⟩ := hjoin
  rw [String.empty_append] at hwithin
  exact ((Within.self t).behind mark).trans hwithin

theorem exists_join_concat (sep : String) (ts : List String) (t : String) :
    ∃ front, join sep (ts ++ [t]) = front ++ t := by
  induction ts with
  | nil => exact ⟨"", (String.empty_append).symm⟩
  | cons first ts ih =>
    obtain ⟨front, hfront⟩ := ih
    cases ts with
    | nil => exact ⟨first ++ sep, rfl⟩
    | cons next ts =>
      refine ⟨first ++ sep ++ front, ?_⟩
      rw [String.append_assoc, ← hfront]
      rfl

/-! ## Binding a name -/

/-- What may stand in front of a name that a text binds, and has to be told only if the name
is empty: layout then may shorten the blanks in front of the keyword. -/
def bindingMarks (x : String) : List String := if x = "" then ["(", ", ", ": "] else [""]

/-- A text binds a name: the name stands in it in front of the keyword. -/
def Binds (x s : String) : Prop := ∃ mark ∈ bindingMarks x, Within (mark ++ (x ++ " as ")) s

namespace Binds

variable {x s t : String}

theorem mono (h : Binds x s) (hs : Within s t) : Binds x t := by
  obtain ⟨mark, hmark, hwithin⟩ := h
  exact ⟨mark, hmark, hwithin.trans hs⟩

theorem within (h : Binds x s) : Within (x ++ " as ") s := by
  obtain ⟨mark, -, hwithin⟩ := h
  exact ((Within.self _).behind mark).trans hwithin

/-- A name that is not empty needs nothing in front. -/
theorem of_ne_empty (hx : x ≠ "") (h : Within (x ++ " as ") s) : Binds x s := by
  refine ⟨"", ?_, ?_⟩
  · rw [bindingMarks, if_neg hx]
    exact List.mem_cons_self
  · rwa [String.empty_append]

theorem of_mark {mark : String} (hmark : mark ∈ ["(", ", ", ": "])
    (h : Within (mark ++ (x ++ " as ")) s) : Binds x s := by
  by_cases hx : x = ""
  · refine ⟨mark, ?_, h⟩
    rwa [bindingMarks, if_pos hx]
  · exact of_ne_empty hx (((Within.self _).behind mark).trans h)

end Binds

/-- Words with single spaces between them, or nothing at all. -/
def IsWords (x : String) : Prop := x = "" ∨ spacing true x.toList = some false

instance (x : String) : Decidable (IsWords x) := inferInstanceAs (Decidable (_ ∨ _))

/-- Behind a blank that was kept a space is kept or dropped. -/
theorem Respaced.space_behind_blank {cs ds : List Char} (hcs : cs.all isBlank = false)
    (h : Respaced true (' ' :: cs) ds) :
    ∃ es, (ds = es ∨ ds = ' ' :: es) ∧ Respaced true cs es := by
  cases h with
  | tail hrun =>
    rw [List.forall_mem_cons] at hrun
    rw [List.all_eq_true.2 hrun.2] at hcs
    exact absurd hcs (by simp)
  | char hc _ => exact absurd hc (by decide)
  | blank _ _ hspace h => exact ⟨_, Or.inr (by rw [hspace rfl]), h⟩
  | drop _ h => exact ⟨_, Or.inl rfl, h⟩

/-- The keyword is found behind a character that is no blank, also where a space between
the two makes two spaces in a row. -/
theorem Respaced.keyword {gap cs ds : List Char} (hgap : gap = [] ∨ gap = [' '])
    (hcs : cs.all isBlank = false) (h : Respaced false (gap ++ (" as ".toList ++ cs)) ds) :
    ∃ front es, ds = front ++ (" as ".toList ++ es) := by
  have hkeyword : spacing false " as ".toList = some true := by decide
  have hword : spacing true ['a', 's', ' '] = some true := by decide
  have hfollowed : ∀ front : List Char, (front ++ cs).all isBlank = false := fun front => by
    rw [List.all_append, hcs, Bool.and_false]
  rcases hgap with rfl | rfl
  · obtain ⟨es, rfl, -⟩ := h.keeps hkeyword hcs
    exact ⟨[], es, rfl⟩
  · have hspace : spacing false [' '] = some true := by decide
    obtain ⟨es, rfl, hes⟩ := h.keeps hspace (hfollowed _)
    obtain ⟨fs, hfs, hrest⟩ := hes.space_behind_blank (hfollowed ['a', 's', ' '])
    obtain ⟨gs, rfl, -⟩ := hrest.keeps hword hcs
    rcases hfs with rfl | rfl
    · exact ⟨[], gs, rfl⟩
    · exact ⟨[' '], gs, rfl⟩

/-- What follows a space in a text that does not end in a blank is not all blank. -/
theorem not_all_isBlank_of_getLast? {front post : List Char} {last : Char}
    (h : (front ++ ' ' :: post).getLast? = some last) (hlast : isBlank last = false) :
    post.all isBlank = false := by
  rw [List.getLast?_append, List.getLast?_cons, Option.some_or] at h
  cases hpost : post.getLast? with
  | none =>
    rw [hpost, Option.getD_none, Option.some.injEq] at h
    rw [← h] at hlast
    exact absurd hlast (by decide)
  | some c =>
    rw [hpost, Option.getD_some, Option.some.injEq] at h
    exact List.all_eq_false.2 ⟨c, List.mem_of_getLast? hpost, by rw [h, hlast]; decide⟩

namespace Respaced

variable {held : Bool} {pre post ds : List Char}

/-- Words with single spaces between them are kept, wherever they stand in front of something
that is not blank. -/
theorem infix_of_spacing {words : List Char} {after : Bool} (hne : words ≠ [])
    (hwords : spacing true words = some after) (hpost : post.all isBlank = false)
    (h : Respaced held (pre ++ (words ++ post)) ds) : words <:+: ds := by
  obtain ⟨c, rest, rfl, hc⟩ := exists_cons_of_spacing hne hwords
  obtain ⟨pre', es, rfl, hes, -⟩ := h.split hc (p := .outside) (by simp)
  rw [spacing_cons_of_not_isBlank hc] at hwords
  obtain ⟨fs, rfl, -⟩ := hes.keeps hwords hpost
  refine ⟨pre', fs, ?_⟩
  rw [List.append_assoc, List.cons_append]

/-- The keyword is kept behind each of the marks that an empty name may stand behind. -/
theorem infix_keyword {mark : String} (hmark : mark ∈ ["(", ", ", ": "])
    (hpost : post.all isBlank = false)
    (h : Respaced held (pre ++ (mark.toList ++ (" as ".toList ++ post))) ds) :
    " as ".toList <:+: ds := by
  have hsplit : ∃ c gap, mark.toList = c :: gap ∧ isBlank c = false ∧ (gap = [] ∨ gap = [' ']) := by
    simp only [List.mem_cons, List.not_mem_nil, or_false] at hmark
    rcases hmark with rfl | rfl | rfl
    · exact ⟨'(', [], rfl, by decide, Or.inl rfl⟩
    · exact ⟨',', [' '], rfl, by decide, Or.inr rfl⟩
    · exact ⟨':', [' '], rfl, by decide, Or.inr rfl⟩
  obtain ⟨c, gap, hmark, hc, hgap⟩ := hsplit
  rw [hmark] at h
  obtain ⟨pre', es, rfl, hes, -⟩ := h.split hc (p := .outside) (by simp)
  obtain ⟨front, fs, rfl⟩ := hes.keyword hgap hpost
  refine ⟨pre' ++ c :: front, fs, ?_⟩
  simp only [List.append_assoc, List.cons_append]

end Respaced

/-- **Layout keeps a binding** of a name made of words, in a text that does not end in a
blank. -/
theorem Binds.normalize {x s : String} {last : Char} (h : Binds x s) (hx : IsWords x)
    (hs : s.toList.getLast? = some last) (hlast : isBlank last = false) :
    Within (x ++ " as ") (normalize s) := by
  obtain ⟨mark, hmark, pre, post, hpost⟩ := h
  have htext : s.toList = pre ++ (mark.toList ++ ((x ++ " as ").toList ++ post)) := by
    rw [← hpost, String.toList_append]
    simp only [List.append_assoc]
  have hrest : post.all isBlank = false := by
    have hend : ((pre ++ (mark.toList ++ (x ++ " as").toList)) ++ ' ' :: post).getLast?
        = some last := by
      rw [← hs, htext]
      simp
    exact not_all_isBlank_of_getLast? hend hlast
  have hspaced := respaced_normalizeChars s.toList
  unfold Within Text.normalize
  rw [String.toList_ofList]
  generalize normalizeChars s.toList = ds at hspaced ⊢
  rw [htext] at hspaced
  by_cases hne : x = ""
  · subst hne
    rw [bindingMarks, if_pos rfl] at hmark
    exact hspaced.infix_keyword hmark hrest
  · have hempty : mark = "" := by
      rwa [bindingMarks, if_neg hne, List.mem_singleton] at hmark
    have hwords : spacing true (x ++ " as ").toList = some true := by
      rw [String.toList_append, spacing_append_of_eq_some (hx.resolve_left hne)]
      rfl
    rw [hempty] at hspaced
    exact hspaced.infix_of_spacing (by simp) hwords hrest

end Text

/-! ## The names that a block binds -/

namespace Clause

/-- The names that the facet directive binds: none if no facets are asked for or all of them
together, else the names of all keys. Without an order the empty key counts as ordered by,
and its name is not written. -/
def boundFacets (c : Clause) : List String :=
  match c.facets with
  | none => []
  | some request =>
    if request.allKeys then []
    else (c.facetVariables.entries.filter fun e => !(e.1.isEmpty && c.facetOrder.isEmpty)).map (·.2)

/-- The names that the line of a node binds. -/
def boundNames (c : Clause) : List String :=
  (if c.variableName.isEmpty then [] else [c.variableName]) ++ c.boundFacets

end Clause

mutual

/-- The names that a node below a root binds with those of the nodes below it, which are
written unless it is internal. -/
def Query.boundBelow : Query → List String
  | ⟨clause, _, children⟩ =>
    clause.boundNames ++ if clause.isInternal then [] else Query.allBoundBelow children

/-- The names that nodes below a root bind. -/
def Query.allBoundBelow : List Query → List String
  | [] => []
  | q :: rest => q.boundBelow ++ Query.allBoundBelow rest

end

/-- The names that the text of a block binds. The children of a root are always written. -/
def Block.boundNames (b : Block) : List String :=
  b.queries.flatMap fun q => q.clause.boundNames ++ Query.allBoundBelow q.children

/-! ### They are declared -/

theorem Clause.mem_ofClause_of_mem_boundNames {c : Clause} {x : String}
    (h : x ∈ c.boundNames) : x ∈ Scope.ofClause c := by
  unfold boundNames at h
  unfold Scope.ofClause
  rcases List.mem_append.1 h with h | h
  · exact List.mem_append_left _ h
  · refine List.mem_append_right _ ?_
    unfold boundFacets at h
    split at h
    · exact absurd h List.not_mem_nil
    · split at h
      · exact absurd h List.not_mem_nil
      · obtain ⟨e, he, rfl⟩ := List.mem_map.1 h
        exact List.mem_map.2 ⟨e, (List.mem_filter.1 he).1, rfl⟩

mutual

theorem Query.mem_ofQuery_of_mem_boundBelow {x : String} :
    ∀ q : Query, x ∈ q.boundBelow → x ∈ Scope.ofQuery q
  | ⟨clause, _, children⟩ => by
    intro h
    rw [boundBelow] at h
    rw [Scope.ofQuery]
    rcases List.mem_append.1 h with h | h
    · exact List.mem_append_left _ (Clause.mem_ofClause_of_mem_boundNames h)
    · refine List.mem_append_right _ (mem_declared_of_mem_allBoundBelow children ?_)
      split at h
      · exact absurd h List.not_mem_nil
      · exact h

theorem Query.mem_declared_of_mem_allBoundBelow {x : String} :
    ∀ qs : List Query, x ∈ allBoundBelow qs → x ∈ Scope.declared qs
  | [] => by
    intro h
    exact absurd h List.not_mem_nil
  | q :: rest => by
    intro h
    rw [allBoundBelow] at h
    rw [Scope.declared]
    exact (List.mem_append.1 h).elim
      (fun h => List.mem_append_left _ (mem_ofQuery_of_mem_boundBelow q h))
      fun h => List.mem_append_right _ (mem_declared_of_mem_allBoundBelow rest h)

end

/-- What a query of a list declares, the list declares. -/
theorem Scope.mem_declared {q : Query} {qs : List Query} (hq : q ∈ qs) {x : String}
    (h : x ∈ ofQuery q) : x ∈ declared qs := by
  induction qs with
  | nil => exact absurd hq List.not_mem_nil
  | cons first rest ih =>
    rw [declared]
    rcases List.mem_cons.1 hq with rfl | hq
    · exact List.mem_append_left _ h
    · exact List.mem_append_right _ (ih hq)

/-- What a block binds it declares. -/
theorem Block.mem_declared_of_mem_boundNames {b : Block} {x : String} (h : x ∈ b.boundNames) :
    x ∈ Scope.declared b.queries := by
  obtain ⟨⟨clause, fallback, children⟩, hq, h⟩ := List.mem_flatMap.1 h
  refine Scope.mem_declared hq ?_
  rw [Scope.ofQuery]
  rcases List.mem_append.1 h with h | h
  · exact List.mem_append_left _ (Clause.mem_ofClause_of_mem_boundNames h)
  · exact List.mem_append_right _ (Query.mem_declared_of_mem_allBoundBelow children h)

/-! ## Lines -/

namespace Clause

variable {c : Clause} {x : String}

theorem binds_bindingText (h : c.variableName ≠ "") : Binds c.variableName c.bindingText := by
  refine .of_ne_empty h ?_
  rw [bindingText_eq]
  unfold unlessEmpty
  rw [if_neg (by simpa using h)]
  exact .self _

/-- A facet key is bound by its name in front of it, whichever mark opens the binding. -/
theorem binds_facetBinding (key : String) {mark text : String} (hmark : mark ∈ ["(", ", ", ": "])
    (h : Within (mark ++ facetBinding x key) text) : Binds x text := by
  refine .of_mark hmark (Within.trans ?_ h)
  have hkey : Within (mark ++ (x ++ " as ")) (mark ++ (x ++ " as ") ++ key) :=
    (Within.self _).before key
  rwa [String.append_assoc, ← facetBinding_eq] at hkey

/-- The order binds the name of the key that facets are ordered by. -/
theorem binds_facetOrder (hfind : c.facetVariables.find? c.facetOrder = some x)
    (hne : c.facetOrder ≠ "") : ∃ text ∈ c.facetOrderTexts, Binds x text := by
  rw [facetOrderTexts_eq, if_neg (by simpa using hne), hfind]
  refine ⟨_, List.mem_singleton_self _, ?_⟩
  have hmark : ": " ∈ ["(", ", ", ": "] := by simp
  refine binds_facetBinding c.facetOrder hmark ?_
  dsimp only
  rw [String.append_assoc]
  exact (Within.self _).behind _

/-- What one of the parts of a facet directive binds, the directive binds. -/
theorem binds_facetParts {parts : List String}
    (h : (∃ text ∈ parts, Binds x text) ∨ ∃ key, facetBinding x key ∈ parts) :
    parts.isEmpty = false ∧ Binds x ("@facets(" ++ join ", " parts ++ ")") := by
  have hopen : "@facets(" ++ join ", " parts = "@facets" ++ ("(" ++ join ", " parts) := by
    rw [← String.append_assoc]
    rfl
  rw [hopen]
  rcases h with ⟨text, htext, hbinds⟩ | ⟨key, hkey⟩
  · refine ⟨List.isEmpty_eq_false_iff.2 (List.ne_nil_of_mem htext), hbinds.mono ?_⟩
    exact (((within_join htext).behind "(").behind "@facets").before ")"
  · refine ⟨List.isEmpty_eq_false_iff.2 (List.ne_nil_of_mem hkey), ?_⟩
    have hjoin : ∃ mark ∈ ["(", ", "],
        Within (mark ++ facetBinding x key) ("(" ++ join ", " parts) := exists_within_join hkey "("
    obtain ⟨mark, hmark, hwithin⟩ := hjoin
    refine binds_facetBinding key ?_ ((hwithin.behind "@facets").before ")")
    exact List.mem_append_left [": "] hmark

/-- A facet key that is bound is bound where facets are ordered by it, or else among the
bindings. -/
theorem binds_facetPart {e : String × String} (he : e ∈ c.facetVariables.entries)
    (hwritten : (!(e.1.isEmpty && c.facetOrder.isEmpty)) = true) :
    (∃ text ∈ c.facetOrderTexts, Binds e.2 text) ∨ facetBinding e.2 e.1 ∈ c.facetBindingTexts := by
  by_cases hkey : e.1 = c.facetOrder
  · have hne : c.facetOrder ≠ "" := by
      rintro hempty
      rw [hkey, hempty] at hwritten
      exact absurd hwritten (by decide)
    have hfind : c.facetVariables.find? c.facetOrder = some e.2 := hkey ▸ Table.find?_of_mem he
    exact Or.inl (binds_facetOrder hfind hne)
  · rw [facetBindingTexts_eq]
    exact Or.inr (List.mem_map.2 ⟨e, List.mem_filter.2 ⟨he, by simpa using hkey⟩, rfl⟩)

/-- The facet directive binds the names that it is said to bind. -/
theorem binds_facetDirective (h : x ∈ c.boundFacets) (hasChildren : Bool) :
    ∃ directive, c.facetDirective hasChildren = some directive ∧ Binds x directive := by
  unfold boundFacets at h
  rw [facetDirective_eq]
  cases hfacets : c.facets with
  | none =>
    rw [hfacets] at h
    exact absurd h List.not_mem_nil
  | some request =>
    rw [hfacets] at h
    dsimp only at h
    by_cases hall : request.allKeys = true
    · rw [if_pos hall] at h
      exact absurd h List.not_mem_nil
    · rw [if_neg hall] at h
      obtain ⟨e, he, rfl⟩ := List.mem_map.1 h
      obtain ⟨he, hwritten⟩ := List.mem_filter.1 he
      have hpart : (∃ text ∈ c.facetOrderTexts ++ c.facetBindingTexts ++
            c.facetKeyTexts request.keys, Binds e.2 text) ∨
          ∃ key, facetBinding e.2 key ∈ c.facetOrderTexts ++ c.facetBindingTexts ++
            c.facetKeyTexts request.keys := by
        rcases binds_facetPart he hwritten with ⟨text, htext, hbinds⟩ | hbinding
        · exact Or.inl ⟨text, List.mem_append_left _ (List.mem_append_left _ htext), hbinds⟩
        · exact Or.inr ⟨e.1, List.mem_append_left _ (List.mem_append_right _ hbinding)⟩
      obtain ⟨hparts, hbinds⟩ := binds_facetParts hpart
      refine ⟨_, rfl, ?_⟩
      dsimp only
      rw [if_neg hall, hparts]
      exact hbinds

/-- The directives of a node bind what its facet directive does. -/
theorem binds_directives {withFilter hasChildren : Bool} {text : String}
    (h : c.directives withFilter hasChildren = .ok text) (hx : x ∈ c.boundFacets) :
    Binds x text := by
  obtain ⟨filter, facetFilter, rfl⟩ := exists_directives_eq h
  obtain ⟨directive, hdirective, hbinds⟩ := binds_facetDirective hx hasChildren
  refine hbinds.mono (((Within.self directive).behind " ").trans (within_join ?_))
  refine List.mem_map.2 ⟨directive, ?_, rfl⟩
  rw [hdirective]
  simp

/-- A line with the binding in front and the directives behind binds what the node binds. -/
theorem binds_line {withFilter hasChildren : Bool} {text directives : String}
    (h : c.directives withFilter hasChildren = .ok directives) (hx : x ∈ c.boundNames)
    (hfront : Within c.bindingText text) (hback : Within directives text) : Binds x text := by
  rcases List.mem_append.1 hx with hx | hx
  · split at hx
    · exact absurd hx List.not_mem_nil
    next hne =>
      rw [List.mem_singleton.1 hx]
      exact (binds_bindingText (by simpa using hne)).mono hfront
  · exact (binds_directives h hx).mono hback

theorem binds_childLine {depth : Nat} {hasChildren : Bool} {text : String}
    (h : c.childLine depth hasChildren = .ok text) (hx : x ∈ c.boundNames) : Binds x text := by
  rw [childLine_eq] at h
  obtain ⟨body, -, h⟩ := exists_of_bind_eq_ok h
  obtain ⟨directives, hdirectives, h⟩ := exists_of_bind_eq_ok h
  obtain rfl := Except.ok.inj h
  refine binds_line hdirectives hx ?_ ((Within.self _).behind _)
  exact (((Within.self _).behind _).before _).before _

theorem binds_rootLine {depth : Nat} {hasChildren : Bool} {text : String}
    (h : c.rootLine depth hasChildren = .ok text) (hx : x ∈ c.boundNames) : Binds x text := by
  obtain ⟨function, directives, -, hdirectives, rfl⟩ := exists_rootLine_eq h
  refine binds_line hdirectives hx ?_ (((Within.self _).behind _).before _)
  exact (((((((Within.self _).behind _).before _).before _).before _).before _).before _).before _

end Clause

/-! ## Blocks -/

namespace Query

variable {x : String}

mutual

/-- Of what a node below a root binds, each name is bound by one of its lines. -/
theorem binds_childLines {depth : Nat} {lines : List String} :
    ∀ q : Query, q.childLines depth = .ok lines → x ∈ q.boundBelow → ∃ line ∈ lines, Binds x line
  | ⟨clause, _, children⟩ => by
    intro h hx
    obtain ⟨line, hline, hlines⟩ := childLines_cases h
    rw [boundBelow] at hx
    rcases hlines with ⟨hinternal, rfl⟩ | ⟨hinternal, rfl, rfl⟩ | ⟨hinternal, -, below, hbelow, rfl⟩
    · rw [if_pos hinternal, List.append_nil] at hx
      exact ⟨line, List.mem_singleton_self line, Clause.binds_childLine hline hx⟩
    · rw [hinternal, allBoundBelow, ite_self, List.append_nil] at hx
      exact ⟨line, List.mem_singleton_self line, Clause.binds_childLine hline hx⟩
    · rw [if_neg (Bool.eq_false_iff.1 hinternal)] at hx
      rcases List.mem_append.1 hx with hx | hx
      · refine ⟨line ++ " \x7b", by simp, ?_⟩
        exact (Clause.binds_childLine hline hx).mono ((Within.self line).before _)
      · obtain ⟨found, hfound, hbinds⟩ := binds_allChildLines children hbelow hx
        exact ⟨found, by simp [hfound], hbinds⟩

theorem binds_allChildLines {depth : Nat} {lines : List String} :
    ∀ qs : List Query, allChildLines depth qs = .ok lines → x ∈ allBoundBelow qs →
      ∃ line ∈ lines, Binds x line
  | [] => by
    intro _ hx
    exact absurd hx List.not_mem_nil
  | q :: rest => by
    intro h hx
    obtain ⟨first, more, hfirst, hmore, rfl⟩ := allChildLines_cons_eq_ok.1 h
    rw [allBoundBelow] at hx
    rcases List.mem_append.1 hx with hx | hx
    · obtain ⟨line, hline, hbinds⟩ := binds_childLines q hfirst hx
      exact ⟨line, List.mem_append_left _ hline, hbinds⟩
    · obtain ⟨line, hline, hbinds⟩ := binds_allChildLines rest hmore hx
      exact ⟨line, List.mem_append_right _ hline, hbinds⟩

end

theorem binds_rootLines {depth : Nat} {q : Query} {lines : List String}
    (h : q.rootLines depth = .ok lines)
    (hx : x ∈ q.clause.boundNames ++ allBoundBelow q.children) : ∃ line ∈ lines, Binds x line := by
  rw [rootLines_eq] at h
  obtain ⟨line, hline, h⟩ := exists_of_bind_eq_ok h
  obtain ⟨below, hbelow, h⟩ := exists_of_bind_eq_ok h
  obtain rfl := Except.ok.inj h
  rcases List.mem_append.1 hx with hx | hx
  · exact ⟨line, by simp, Clause.binds_rootLine hline hx⟩
  · obtain ⟨found, hfound, hbinds⟩ := binds_allChildLines q.children hbelow hx
    exact ⟨found, by simp [hfound], hbinds⟩

theorem binds_allRootLines {depth : Nat} {qs : List Query} {lines : List String}
    (h : allRootLines depth qs = .ok lines)
    (hx : x ∈ qs.flatMap fun q => q.clause.boundNames ++ allBoundBelow q.children) :
    ∃ line ∈ lines, Binds x line := by
  induction qs generalizing lines with
  | nil => exact absurd hx List.not_mem_nil
  | cons q rest ih =>
    rw [allRootLines_cons] at h
    obtain ⟨first, hfirst, h⟩ := exists_of_bind_eq_ok h
    obtain ⟨more, hmore, h⟩ := exists_of_bind_eq_ok h
    obtain rfl := Except.ok.inj h
    rw [List.flatMap_cons] at hx
    rcases List.mem_append.1 hx with hx | hx
    · obtain ⟨line, hline, hbinds⟩ := binds_rootLines hfirst hx
      exact ⟨line, List.mem_append_left _ hline, hbinds⟩
    · obtain ⟨line, hline, hbinds⟩ := ih hmore hx
      exact ⟨line, List.mem_append_right _ hline, hbinds⟩

end Query

namespace Block

variable {b : Block}

/-- The lines of a block bind what the block binds, and the last of them is a bracket. -/
theorem binds_lines {lines : List String} (h : b.lines = .ok lines) :
    (∃ front, lines = front ++ ["\x7d"]) ∧ ∀ x ∈ b.boundNames, Binds x (join "\n" lines) := by
  rw [lines_eq] at h
  obtain ⟨below, hbelow, rfl⟩ := exists_of_map_eq_ok h
  refine ⟨⟨b.header :: below, rfl⟩, fun x hx => ?_⟩
  obtain ⟨line, hline, hbinds⟩ := Query.binds_allRootLines hbelow hx
  exact hbinds.mono (within_join (by simp [hline]))

/-- **The text of a block binds the names of the nodes that are written**, and of those
facets that a directive lists: each is declared and stands in front of `as` in the lines of
the block, and still does behind layout if it is made of words. -/
theorem bound_in_text {text : String} (h : b.render = .ok text) :
    ∃ lines, b.lines = .ok lines ∧ text = normalize (join "\n" lines) ∧
      ∀ x ∈ b.boundNames, x ∈ Scope.declared b.queries ∧
        Within (x ++ " as ") (join "\n" lines) ∧ (IsWords x → Within (x ++ " as ") text) := by
  obtain ⟨lines, hlines, rfl⟩ := exists_render_eq h
  obtain ⟨⟨front, hfront⟩, hbinds⟩ := binds_lines hlines
  have hlast : (join "\n" lines).toList.getLast? = some '\x7d' := by
    obtain ⟨head, hhead⟩ := exists_join_concat "\n" front "\x7d"
    rw [hfront, hhead, String.toList_append, List.getLast?_append]
    rfl
  refine ⟨lines, hlines, rfl, fun x hx => ⟨mem_declared_of_mem_boundNames hx, ?_, fun hwords => ?_⟩⟩
  · exact (hbinds x hx).within
  · exact (hbinds x hx).normalize hwords hlast (by decide)

/-- A block that binds the friends of a node as `L`, the closeness that they are ordered by
as `f`, and since when they are friends as `g`. -/
def friends : Block where
  queries := [{
    clause := { aliasName := "me", call := some { name := "uid" }, ids := [1] }
    children := [{
      clause := {
        attr := "friend", variableName := "L", facets := some {}, facetOrder := "close"
        facetVariables := .ofList [("close", "f"), ("since", "g")] } }] }]

theorem bound_in_text_friends :
    ∃ text, friends.render = .ok text ∧ Within "L as " text ∧ Within "f as " text ∧
      Within "g as " text := by
  obtain ⟨text, h⟩ : ∃ text, friends.render = .ok text := ⟨_, rfl⟩
  obtain ⟨_, _, _, hall⟩ := bound_in_text h
  refine ⟨text, h, ?_, ?_, ?_⟩
  · exact (hall "L" (by decide)).2.2 (by decide)
  · exact (hall "f" (by decide)).2.2 (by decide)
  · exact (hall "g" (by decide)).2.2 (by decide)

/-- A block with five declarations that its text does not bind: `L` below an internal node,
`f` where no facets are asked for, `g` where all are, `h` for the empty key, and a name with
two spaces in a row. -/
def unbound : Block where
  queries := [{
    clause := { aliasName := "me", call := some { name := "uid" }, ids := [1] }
    children := [
      { clause := { attr := "friend", isInternal := true }
        children := [{ clause := { attr := "name", variableName := "L" } }] },
      { clause := { attr := "knows", facetVariables := .ofList [("since", "f")] } },
      { clause := {
          attr := "likes", facets := some { allKeys := true }
          facetVariables := .ofList [("close", "g")] } },
      { clause := { attr := "meets", facets := some {}, facetVariables := .ofList [("", "h")] } },
      { clause := { attr := "age", variableName := "a  b" } }] }]

/-- The lines of this block, with the name that the last node is bound to. -/
def unboundLines (name : String) : List String :=
  ["\x7b", "    me(func: uid(0x01)) \x7b", "        friend", "        knows",
    "        likes @facets", "        meets @facets() \x7b \x7d",
    "        " ++ name ++ " as age", "    \x7d", "\x7d"]

/-- Not every declaration is bound in the text. -/
theorem unbound_declarations :
    ∃ text, unbound.render = .ok text ∧ ∀ x ∈ ["L", "f", "g", "h", "a  b"],
      x ∈ Scope.declared unbound.queries ∧ ¬ Within (x ++ " as ") text := by
  have hrender : unbound.render = .ok (normalize (join "\n" (unboundLines "a  b"))) := by
    have hlines : unbound.lines = .ok (unboundLines "a  b") := rfl
    rw [render_eq, hlines]
    rfl
  have hlayout : normalize (join "\n" (unboundLines "a  b")) = join "\n" (unboundLines "a b") := by
    decide +kernel
  refine ⟨_, hrender, ?_⟩
  rw [hlayout]
  decide +kernel

end Block

end Dql
