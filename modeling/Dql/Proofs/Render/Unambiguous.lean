import Dql.Proofs.Render.LookupLine

/-!
# The text of a lookup block is unambiguous

Two lookup blocks with the same text have the same queries (`Block.queries_eq_of_render_eq`).

Layout leaves the lines of such a block alone, so they are known from its text. They are
cut into nodes from the first on: a node is known from its own line, which also says whether
it has children, and the children end at a line that closes a block, which is the line of no
node (`Query.attributeLines_cut`, by the tree).
-/

namespace Dql

open Text

namespace Query

/-! ## Nodes -/

/-- The lines of a node: its own, which says whether others follow, and those of its children
with the line that closes them. -/
theorem attributeLines_eq (depth : Nat) (clause : Clause) (fallback : Option Json)
    (children : List Query) :
    attributeLines depth ⟨clause, fallback, children⟩
      = clause.attributeNodeLine depth (!children.isEmpty) ::
        if children.isEmpty then []
        else allAttributeLines (depth + 1) children ++ [closingLine depth] := by
  rw [attributeLines]
  cases children with
  | nil => rfl
  | cons q qs => rfl

/-- A line that closes a block is the line of no node. -/
theorem closingLine_cons_ne {q : Query} (h : q.IsAttributeNode) (depth closing : Nat)
    (rest rest' : List String) : closingLine closing :: rest ≠ q.attributeLines depth ++ rest' := by
  obtain ⟨clause, fallback, children⟩ := q
  rw [IsAttributeNode] at h
  rw [attributeLines_eq, List.cons_append]
  intro heq
  exact Clause.closingLine_ne_attributeNodeLine h.1 depth closing _ (List.cons.inj heq).1

mutual

/-- **An attribute node is known from its lines**, whatever follows. -/
theorem attributeLines_cut {depth : Nat} {rest rest' : List String} :
    ∀ q q' : Query, q.IsAttributeNode → q'.IsAttributeNode →
      q.attributeLines depth ++ rest = q'.attributeLines depth ++ rest' → q = q' ∧ rest = rest'
  | ⟨clause, fallback, children⟩, ⟨clause', fallback', children'⟩ => by
    intro h h' heq
    rw [IsAttributeNode] at h h'
    obtain ⟨hclause, rfl, hchildren⟩ := h
    obtain ⟨hclause', rfl, hchildren'⟩ := h'
    rw [attributeLines_eq, attributeLines_eq, List.cons_append, List.cons_append] at heq
    obtain ⟨hline, hrest⟩ := List.cons.inj heq
    obtain ⟨rfl, hopens⟩ := Clause.eq_of_attributeNodeLine hclause hclause' hline
    have hempty : children.isEmpty = children'.isEmpty := Bool.not_inj hopens
    by_cases hnone : children.isEmpty = true
    · have hnone' : children'.isEmpty = true := hempty ▸ hnone
      rw [if_pos hnone, if_pos hnone'] at hrest
      obtain rfl := List.isEmpty_iff.1 hnone
      obtain rfl := List.isEmpty_iff.1 hnone'
      exact ⟨rfl, hrest⟩
    · have hnone' : ¬ children'.isEmpty = true := hempty ▸ hnone
      rw [if_neg hnone, if_neg hnone', List.append_assoc, List.append_assoc] at hrest
      obtain ⟨rfl, rfl⟩ := allAttributeLines_cut children children' hchildren hchildren' hrest
      exact ⟨rfl, rfl⟩

/-- Attribute nodes are known from their lines up to the line that closes the block. -/
theorem allAttributeLines_cut {depth closing : Nat} {rest rest' : List String} :
    ∀ qs qs' : List Query, AllAttributeNodes qs → AllAttributeNodes qs' →
      allAttributeLines depth qs ++ closingLine closing :: rest
        = allAttributeLines depth qs' ++ closingLine closing :: rest' → qs = qs' ∧ rest = rest'
  | [], [] => fun _ _ heq => ⟨rfl, (List.cons.inj heq).2⟩
  | [], q' :: qs' => by
    intro _ h' heq
    rw [AllAttributeNodes] at h'
    rw [allAttributeLines, allAttributeLines, List.append_assoc] at heq
    exact absurd heq (closingLine_cons_ne h'.1 depth closing _ _)
  | q :: qs, [] => by
    intro h _ heq
    rw [AllAttributeNodes] at h
    rw [allAttributeLines, allAttributeLines, List.append_assoc] at heq
    exact absurd heq.symm (closingLine_cons_ne h.1 depth closing _ _)
  | q :: qs, q' :: qs' => by
    intro h h' heq
    rw [AllAttributeNodes] at h h'
    rw [allAttributeLines, allAttributeLines, List.append_assoc, List.append_assoc] at heq
    obtain ⟨rfl, hrest⟩ := attributeLines_cut q q' h.1 h'.1 heq
    obtain ⟨rfl, rfl⟩ := allAttributeLines_cut qs qs' h.2 h'.2 hrest
    exact ⟨rfl, rfl⟩

end

/-! ## Roots -/

/-- A root is known from its lines, whatever follows. -/
theorem lookupLines_cut {q q' : Query} (h : q.IsLookupRoot) (h' : q'.IsLookupRoot)
    {rest rest' : List String} (heq : q.lookupLines ++ rest = q'.lookupLines ++ rest') :
    q = q' ∧ rest = rest' := by
  obtain ⟨clause, fallback, children⟩ := q
  obtain ⟨clause', fallback', children'⟩ := q'
  obtain ⟨hclause, rfl, hchildren⟩ := h
  obtain ⟨hclause', rfl, hchildren'⟩ := h'
  unfold lookupLines at heq
  rw [List.cons_append, List.cons_append, List.cons_append, List.cons_append, List.append_assoc,
    List.append_assoc] at heq
  obtain ⟨hline, hrest⟩ := List.cons.inj heq
  obtain rfl := Clause.eq_of_lookupLine hclause hclause' hline
  obtain ⟨rfl, rfl⟩ := allAttributeLines_cut children children' hchildren hchildren' hrest
  exact ⟨rfl, rfl⟩

/-- Roots are known from their lines up to the line that closes the block. -/
theorem allLookupLines_cut {qs qs' : List Query} (h : ∀ q ∈ qs, q.IsLookupRoot)
    (h' : ∀ q ∈ qs', q.IsLookupRoot)
    (heq : qs.flatMap lookupLines ++ [closingLine 0] = qs'.flatMap lookupLines ++ [closingLine 0]) :
    qs = qs' := by
  have hroot : ∀ {q : Query}, q.IsLookupRoot → ∀ more : List String,
      [closingLine 0] ≠ q.lookupLines ++ more := by
    intro q hq more hlines
    exact Clause.closingLine_ne_lookupLine hq.clause 1 0 (List.cons.inj hlines).1
  induction qs generalizing qs' with
  | nil =>
    cases qs' with
    | nil => rfl
    | cons q' qs' =>
      rw [List.flatMap_cons, List.append_assoc] at heq
      exact absurd heq (hroot (h' q' List.mem_cons_self) _)
  | cons q qs ih =>
    rw [List.forall_mem_cons] at h
    rw [List.flatMap_cons, List.append_assoc] at heq
    cases qs' with
    | nil => exact absurd heq.symm (hroot h.1 _)
    | cons q' qs' =>
      rw [List.forall_mem_cons] at h'
      rw [List.flatMap_cons, List.append_assoc] at heq
      obtain ⟨rfl, hrest⟩ := lookupLines_cut h.1 h'.1 heq
      rw [ih h.2 h'.2 hrest]

/-! ## Normal layout -/

theorem isNormalLine_closingLine (depth : Nat) : IsNormalLine (closingLine depth).toList := by
  rw [closingLine_eq, String.toList_append]
  exact Clause.isNormalLine_indent (by decide)

mutual

theorem isNormalLine_of_mem_attributeLines {depth : Nat} {line : String} :
    ∀ q : Query, q.IsAttributeNode → line ∈ q.attributeLines depth → IsNormalLine line.toList
  | ⟨clause, fallback, children⟩ => by
    intro h hline
    rw [IsAttributeNode] at h
    rw [attributeLines_eq] at hline
    rcases List.mem_cons.1 hline with rfl | hline
    · exact Clause.isNormalLine_attributeNodeLine h.1 depth _
    · split at hline
      · exact absurd hline List.not_mem_nil
      · rcases List.mem_append.1 hline with hline | hline
        · exact isNormalLine_of_mem_allAttributeLines children h.2.2 hline
        · rw [List.mem_singleton.1 hline]
          exact isNormalLine_closingLine depth

theorem isNormalLine_of_mem_allAttributeLines {depth : Nat} {line : String} :
    ∀ qs : List Query, AllAttributeNodes qs → line ∈ allAttributeLines depth qs →
      IsNormalLine line.toList
  | [] => fun _ hline => absurd hline List.not_mem_nil
  | q :: qs => by
    intro h hline
    rw [AllAttributeNodes] at h
    rw [allAttributeLines] at hline
    rcases List.mem_append.1 hline with hline | hline
    · exact isNormalLine_of_mem_attributeLines q h.1 hline
    · exact isNormalLine_of_mem_allAttributeLines qs h.2 hline

end

theorem isNormalLine_of_mem_lookupLines {q : Query} (h : q.IsLookupRoot) {line : String}
    (hline : line ∈ q.lookupLines) : IsNormalLine line.toList := by
  unfold lookupLines at hline
  rcases List.mem_append.1 hline with hline | hline
  · rcases List.mem_cons.1 hline with rfl | hline
    · exact Clause.isNormalLine_lookupLine h.clause 1
    · exact isNormalLine_of_mem_allAttributeLines q.children h.children hline
  · rw [List.mem_singleton.1 hline]
    exact isNormalLine_closingLine 1

end Query

/-! ## Blocks -/

namespace Block

variable {b b' : Block}

/-- Layout leaves the lines of a lookup block alone. -/
theorem isNormalLine_of_mem_lookupLines (h : b.IsLookupBlock) {line : String}
    (hline : line ∈ b.lookupLines) : IsNormalLine line.toList := by
  have hopening : IsNormalLine ([] ++ ['\x7b']) :=
    isNormalLine_of_spacing (by simp) (by simp) (by decide)
  unfold lookupLines at hline
  rcases List.mem_append.1 hline with hline | hline
  · rcases List.mem_cons.1 hline with rfl | hline
    · exact hopening
    · obtain ⟨q, hq, hline⟩ := List.mem_flatMap.1 hline
      exact Query.isNormalLine_of_mem_lookupLines (h.queries q hq) hline
  · rw [List.mem_singleton.1 hline]
    exact Query.isNormalLine_closingLine 0

/-- **Lookup blocks with the same text have the same queries**, and each of them has a text. -/
theorem queries_eq_of_render_eq (h : b.IsLookupBlock) (h' : b'.IsLookupBlock) :
    (∃ text, b.render = .ok text) ∧ (b.render = b'.render → b.queries = b'.queries) := by
  refine ⟨⟨_, render_of_isLookupBlock h⟩, fun heq => ?_⟩
  rw [render_of_isLookupBlock h, render_of_isLookupBlock h'] at heq
  have hlines : b.lookupLines = b'.lookupLines :=
    lines_eq_of_normalize_eq (fun _ hline => isNormalLine_of_mem_lookupLines h hline)
      (fun _ hline => isNormalLine_of_mem_lookupLines h' hline) (Except.ok.inj heq)
  exact Query.allLookupLines_cut h.queries h'.queries (List.cons.inj hlines).2

/-- The friends of two nodes and their names in order, and then: below the friends what
`below` asks for, and beside them what `beside` asks for. -/
def acquaintances (below beside : List Query) : Block where
  queries := [{
    clause := { aliasName := "me", call := some { name := "uid" }, ids := [1, 26] }
    children := {
      clause := {
        attr := "friend", aliasName := "friends", variableName := "F", cascade := true
        orders := [{ attr := "name", descending := true, langs := ["en"] }]
        arguments := .ofList [("first", "ten")] }
      children := below } :: beside }]

/-- An attribute alone. -/
def leaf (attr : String) : Query where
  clause := { attr := attr }

theorem isAttributeNode_leaf {attr : String} (h : IsIdentifier attr) :
    (leaf attr).IsAttributeNode := by
  unfold leaf
  rw [Query.IsAttributeNode]
  exact ⟨{ variableName := .inl rfl, orders := by simp, arguments := fun _ he => nomatch he
           attr := h, aliasName := .inl rfl, langs := by simp, rest := rfl },
    rfl, trivial⟩

theorem isLookupBlock_acquaintances {below beside : List Query}
    (hbelow : Query.AllAttributeNodes below) (hbeside : Query.AllAttributeNodes beside) :
    (acquaintances below beside).IsLookupBlock where
  aliasName := rfl
  variableTypes := rfl
  queries := by
    intro q hq
    obtain rfl := List.mem_singleton.1 hq
    refine ⟨?_, rfl, ?_⟩
    · exact { variableName := .inl rfl, orders := by simp, arguments := fun _ he => nomatch he
              aliasName := (by decide : IsIdentifier "me"), rest := rfl }
    · rw [Query.AllAttributeNodes, Query.IsAttributeNode]
      refine ⟨⟨?_, rfl, hbelow⟩, hbeside⟩
      exact { variableName := .inr (by decide), orders := by decide, arguments := by decide
              attr := by decide, aliasName := .inr (by decide), langs := by decide, rest := rfl }

/-- The text shows whether an attribute stands below another one or beside it. -/
theorem queries_eq_of_render_eq_acquaintances :
    (∃ text, (acquaintances [leaf "name", leaf "age"] []).render = .ok text) ∧
      (acquaintances [leaf "name", leaf "age"] []).render
        ≠ (acquaintances [leaf "name"] [leaf "age"]).render := by
  have hfirst : Query.AllAttributeNodes [leaf "name"] :=
    ⟨isAttributeNode_leaf (by decide), trivial⟩
  have hsecond : Query.AllAttributeNodes [leaf "age"] :=
    ⟨isAttributeNode_leaf (by decide), trivial⟩
  have hbelow : (acquaintances [leaf "name", leaf "age"] []).IsLookupBlock :=
    isLookupBlock_acquaintances ⟨hfirst.1, hsecond⟩ trivial
  have hbeside : (acquaintances [leaf "name"] [leaf "age"]).IsLookupBlock :=
    isLookupBlock_acquaintances hfirst hsecond
  obtain ⟨htext, hqueries⟩ := queries_eq_of_render_eq hbelow hbeside
  refine ⟨htext, fun heq => ?_⟩
  have hchildren : 1 = 2 := congrArg (fun qs => (qs.flatMap (·.children)).length) (hqueries heq)
  exact absurd hchildren (by decide)

end Block

end Dql
