import Dql.Proofs.Render.Block
import Dql.Proofs.Text.Cut

/-!
# Lookup blocks and their lines

A lookup block asks for nodes by identifier, and below them for attributes, with the
orderings, arguments and flags that a node may have; every name in it is an identifier.
Its text never fails (`Block.render_of_isLookupBlock`), and what it says can be written
down without the writer: one line for each node, with its parts in order
(`Clause.lookupLine`, `Clause.attributeNodeLine`), and a closing bracket behind the
children of each.
-/

namespace Dql

open Text

/-! ## Lookup blocks -/

namespace Clause

/-- What all nodes of a lookup block may say, and nothing else. -/
def shared (c : Clause) : Clause where
  variableName := c.variableName
  arguments := c.arguments
  orders := c.orders
  normalize := c.normalize
  recurse := c.recurse
  cascade := c.cascade
  ignoreReflex := c.ignoreReflex

/-- The names in what all nodes of a lookup block may say are identifiers, and no argument
is called like a call or an ordering. -/
structure HasIdentifiers (c : Clause) : Prop where
  variableName : c.variableName = "" ∨ IsIdentifier c.variableName
  orders : ∀ o ∈ c.orders, IsIdentifier o.attr ∧ ∀ l ∈ o.langs, IsIdentifier l
  arguments : ∀ e ∈ c.arguments.entries,
    IsIdentifier e.1 ∧ e.1 ∉ ["func", "orderasc", "orderdesc"] ∧ IsIdentifier e.2

/-- The clause of a root of a lookup block: a lookup by identifiers under an alias. -/
structure IsLookupRoot (c : Clause) : Prop extends HasIdentifiers c where
  aliasName : IsIdentifier c.aliasName
  rest : c = { c.shared with
    ids := c.ids, aliasName := c.aliasName, call := some { name := "uid" } }

/-- The clause of a node below a root of a lookup block: an attribute. -/
structure IsAttributeNode (c : Clause) : Prop extends HasIdentifiers c where
  attr : IsIdentifier c.attr
  aliasName : c.aliasName = "" ∨ IsIdentifier c.aliasName
  langs : ∀ l ∈ c.langs, IsIdentifier l
  rest : c = { c.shared with attr := c.attr, langs := c.langs, aliasName := c.aliasName }

end Clause

mutual

/-- A node below a root of a lookup block. -/
def Query.IsAttributeNode : Query → Prop
  | ⟨clause, fallback, children⟩ =>
    clause.IsAttributeNode ∧ fallback = none ∧ Query.AllAttributeNodes children

/-- Nodes below a root of a lookup block. -/
def Query.AllAttributeNodes : List Query → Prop
  | [] => True
  | q :: rest => q.IsAttributeNode ∧ Query.AllAttributeNodes rest

end

/-- A root of a lookup block. -/
structure Query.IsLookupRoot (q : Query) : Prop where
  clause : q.clause.IsLookupRoot
  fallback : q.fallback = none
  children : Query.AllAttributeNodes q.children

/-- A block of lookups without a name or variables of its own. -/
structure Block.IsLookupBlock (b : Block) : Prop where
  aliasName : b.aliasName = ""
  variableTypes : b.variableTypes = .empty
  queries : ∀ q ∈ b.queries, q.IsLookupRoot

/-! ## Lines -/

namespace Clause

/-- What stands at the end of a line, each behind a space: the flags, and a bracket if the
line opens a block. -/
def endMarks (c : Clause) (opens : Bool) : List String :=
  c.flagDirectives ++ if opens then ["\x7b"] else []

/-- An ordering of a lookup block. -/
def plainOrderText (o : Order) : String :=
  o.direction ++ ": " ++ o.attr ++ Render.languages o.langs

/-- The line of an attribute. -/
def attributeNodeLine (depth : Nat) (opens : Bool) (c : Clause) : String :=
  indent depth ++ c.bindingText ++ (c.aliasText ++ (c.attr ++ Render.languages c.langs) ++
    c.parameters) ++ join "" ((c.endMarks opens).map (" " ++ ·))

/-- The line that opens a lookup. -/
def lookupLine (depth : Nat) (c : Clause) : String :=
  indent depth ++ c.bindingText ++ c.aliasName ++ "(" ++
    join ", " (("func: uid(" ++ join ", " (c.ids.map Uid.format) ++ ")") ::
      (c.orderTexts ++ c.argumentTexts)) ++ ")" ++
    join "" ((c.endMarks true).map (" " ++ ·))

end Clause

mutual

/-- The lines of an attribute node. -/
def Query.attributeLines (depth : Nat) : Query → List String
  | ⟨clause, _, children⟩ =>
    if children.isEmpty then [clause.attributeNodeLine depth false]
    else
      clause.attributeNodeLine depth true :: Query.allAttributeLines (depth + 1) children ++
        [closingLine depth]

/-- The lines of attribute nodes. -/
def Query.allAttributeLines (depth : Nat) : List Query → List String
  | [] => []
  | q :: rest => q.attributeLines depth ++ Query.allAttributeLines depth rest

end

/-- The lines of a root of a lookup block. -/
def Query.lookupLines (q : Query) : List String :=
  q.clause.lookupLine 1 :: Query.allAttributeLines 2 q.children ++ [closingLine 1]

/-- The lines of a lookup block. -/
def Block.lookupLines (b : Block) : List String :=
  "\x7b" :: b.queries.flatMap Query.lookupLines ++ ["\x7d"]

/-! ## The writer writes these lines -/

namespace Clause

variable {c : Clause}

/-- The characters of an attribute's line, part by part. -/
theorem toList_attributeNodeLine (depth : Nat) (opens : Bool) (c : Clause) :
    (c.attributeNodeLine depth opens).toList = (indent depth).toList ++ (c.bindingText.toList ++
      (c.aliasText.toList ++ (c.attr.toList ++ ((Render.languages c.langs).toList ++
        (c.parameters.toList ++ following " " (c.endMarks opens)))))) := by
  unfold attributeNodeLine
  simp only [String.toList_append, toList_join_map, List.append_assoc]

/-- The characters of the line that opens a lookup, part by part. -/
theorem toList_lookupLine (depth : Nat) (c : Clause) :
    (c.lookupLine depth).toList = (indent depth).toList ++ (c.bindingText.toList ++
      (c.aliasName.toList ++ ("(func: uid(".toList ++
        ((join ", " (c.ids.map Uid.format)).toList ++ (')' ::
          (following ", " (c.orderTexts ++ c.argumentTexts) ++ (')' ::
            following " " (c.endMarks true)))))))) := by
  unfold lookupLine
  simp only [String.toList_append, toList_join_map, toList_join_cons, List.append_assoc]
  rfl

theorem endMarks_false (c : Clause) : c.endMarks false = c.flagDirectives :=
  List.append_nil _

theorem following_endMarks_true (c : Clause) :
    following " " (c.endMarks true) = following " " (c.endMarks false) ++ " \x7b".toList := by
  unfold following
  rw [endMarks_false, endMarks, List.flatMap_append]
  rfl

theorem attributeNodeLine_true (depth : Nat) (c : Clause) :
    c.attributeNodeLine depth true = c.attributeNodeLine depth false ++ " \x7b" := by
  refine String.toList_inj.1 ?_
  rw [String.toList_append, toList_attributeNodeLine, toList_attributeNodeLine,
    following_endMarks_true]
  simp only [List.append_assoc]

/-- Where there is nothing to filter, no facets and no grouping, the directives are flags. -/
theorem directives_of_flags (hfilter : c.filter = none) (hfacetFilter : c.facetFilter = none)
    (hfacets : c.facets = none) (hgroups : c.groupKeys = []) (withFilter hasChildren : Bool) :
    c.directives withFilter hasChildren
      = .ok (join "" ((c.endMarks false).map (" " ++ ·))) := by
  rw [directives_eq, filterDirective_eq, facetFilterDirective_eq, facetDirective_eq,
    groupDirective_eq]
  rw [hfilter, hfacetFilter, hfacets, hgroups, endMarks_false]
  cases withFilter <;> rfl

/-- An identifier is no absolute URI, so it stands without brackets. -/
theorem attributeText_of_isIdentifier {attr : String} (h : IsIdentifier attr) :
    Render.attributeText attr = attr := by
  have hcolon : ':' ∉ attr.toList := fun hmem => absurd (h.all ':' hmem) (by decide)
  unfold Render.attributeText bracketed Uri.isAbsolute
  rw [Uri.not_isAbsoluteChars_of_no_colon hcolon, if_neg Bool.false_ne_true]

theorem childLine_of_isAttributeNode (h : c.IsAttributeNode) (depth : Nat) (hasChildren : Bool) :
    c.childLine depth hasChildren = .ok (c.attributeNodeLine depth false) := by
  have hcall : c.call = none := congrArg Clause.call h.rest
  have hmath : c.math = none := congrArg Clause.math h.rest
  have hcount : c.isCount = false := congrArg Clause.isCount h.rest
  have huses : c.uses = [] := congrArg Clause.uses h.rest
  have hexpand : c.expand = "" := congrArg Clause.expand h.rest
  have hattr : ¬ c.attr.isEmpty = true := by simpa using h.attr.ne_empty
  have hline : c.attributeLine
      = .ok (c.aliasText ++ (c.attr ++ Render.languages c.langs) ++ c.parameters) := by
    rw [attributeLine_eq, attributeWithLanguages_eq, expansion_eq]
    rw [if_neg hattr, attributeText_of_isIdentifier h.attr, hexpand]
    exact congrArg Except.ok String.append_empty
  have hbody : c.body = c.attributeLine := by
    rw [body_eq, hcall, hmath, hcount, huses]
    simp
  rw [childLine_eq]
  rw [hbody, hline, directives_of_flags (congrArg Clause.filter h.rest)
    (congrArg Clause.facetFilter h.rest) (congrArg Clause.facets h.rest)
    (congrArg Clause.groupKeys h.rest)]
  rfl

/-- A lookup over no attribute is written with the identifiers of its node. -/
theorem functionText_lookup (hattr : c.attr = "") :
    c.functionText { name := "uid" }
      = .ok ("uid(" ++ join ", " (c.ids.map Uid.format) ++ ")") := by
  have harguments : c.functionArguments { name := "uid" } = join ", " (c.ids.map Uid.format) := by
    rw [functionArguments_eq]
    cases c.ids with
    | nil => rfl
    | cons u us => exact congrArg (join ", ") (List.append_nil _)
  rw [functionText_eq, harguments, hattr]
  rfl

theorem rootLine_of_isLookupRoot (h : c.IsLookupRoot) (depth : Nat) (hasChildren : Bool) :
    c.rootLine depth hasChildren = .ok (c.lookupLine depth) := by
  have hcall : c.call = some { name := "uid" } := congrArg Clause.call h.rest
  have hattr : c.attr = "" := congrArg Clause.attr h.rest
  have hname : c.resultName = c.aliasName := by
    unfold resultName
    rw [if_neg (by simpa using h.aliasName.ne_empty)]
  rw [rootLine_eq]
  rw [hname, hcall, if_neg (by simpa using h.aliasName.ne_empty),
    directives_of_flags (congrArg Clause.filter h.rest) (congrArg Clause.facetFilter h.rest)
    (congrArg Clause.facets h.rest) (congrArg Clause.groupKeys h.rest)]
  dsimp only
  rw [functionText_lookup hattr]
  refine congrArg Except.ok (String.toList_inj.1 ?_)
  rw [toList_lookupLine, following_endMarks_true]
  simp only [String.toList_append, toList_join_map, List.append_assoc, List.cons_append,
    toList_join_cons]
  rfl

end Clause

/-! ## The lines of a block -/

namespace Query

mutual

theorem childLines_of_isAttributeNode {depth : Nat} :
    ∀ q : Query, q.IsAttributeNode → q.childLines depth = .ok (q.attributeLines depth)
  | ⟨clause, fallback, children⟩ => by
    intro h
    rw [IsAttributeNode] at h
    obtain ⟨hclause, -, hchildren⟩ := h
    have hinternal : clause.isInternal = false := congrArg Clause.isInternal hclause.rest
    rw [childLines_eq, Clause.childLine_of_isAttributeNode hclause, attributeLines, hinternal]
    dsimp only
    rw [Bool.false_or]
    split
    · rfl
    · rw [allChildLines_of_allAttributeNodes children hchildren, Clause.attributeNodeLine_true]
      rfl

theorem allChildLines_of_allAttributeNodes {depth : Nat} :
    ∀ qs : List Query, AllAttributeNodes qs →
      allChildLines depth qs = .ok (allAttributeLines depth qs)
  | [] => fun _ => rfl
  | q :: rest => by
    intro h
    rw [AllAttributeNodes] at h
    rw [allChildLines_cons, childLines_of_isAttributeNode q h.1, allAttributeLines]
    dsimp only
    rw [allChildLines_of_allAttributeNodes rest h.2]
    rfl

end

theorem rootLines_of_isLookupRoot {q : Query} (h : q.IsLookupRoot) :
    q.rootLines 1 = .ok q.lookupLines := by
  rw [rootLines_eq, Clause.rootLine_of_isLookupRoot h.clause,
    allChildLines_of_allAttributeNodes q.children h.children]
  rfl

theorem allRootLines_of_isLookupRoot {qs : List Query} (h : ∀ q ∈ qs, q.IsLookupRoot) :
    allRootLines 1 qs = .ok (qs.flatMap lookupLines) := by
  induction qs with
  | nil => rfl
  | cons q rest ih =>
    rw [List.forall_mem_cons] at h
    rw [allRootLines_cons, rootLines_of_isLookupRoot h.1, ih h.2, List.flatMap_cons]
    rfl

/-! ### Nothing refers to a variable -/

mutual

theorem referencesOf_of_isAttributeNode :
    ∀ q : Query, q.IsAttributeNode → Scope.referencesOf q = []
  | ⟨clause, fallback, children⟩ => by
    intro h
    rw [IsAttributeNode] at h
    obtain ⟨hclause, -, hchildren⟩ := h
    have hnames : Scope.namesInClause clause = [] := by
      rw [hclause.rest]
      rfl
    rw [Scope.referencesOf, hnames, references_of_allAttributeNodes children hchildren]
    rfl

theorem references_of_allAttributeNodes :
    ∀ qs : List Query, AllAttributeNodes qs → Scope.references qs = []
  | [] => fun _ => rfl
  | q :: rest => by
    intro h
    rw [AllAttributeNodes] at h
    rw [Scope.references, referencesOf_of_isAttributeNode q h.1,
      references_of_allAttributeNodes rest h.2]
    rfl

end

theorem references_of_isLookupRoot {qs : List Query} (h : ∀ q ∈ qs, q.IsLookupRoot) :
    Scope.references qs = [] := by
  induction qs with
  | nil => rfl
  | cons q rest ih =>
    rw [List.forall_mem_cons] at h
    obtain ⟨⟨hclause, -, hchildren⟩, hrest⟩ := h
    obtain ⟨clause, fallback, children⟩ := q
    change clause.IsLookupRoot at hclause
    have hnames : Scope.namesInClause clause = [] := by
      rw [hclause.rest]
      rfl
    rw [Scope.references, Scope.referencesOf, hnames,
      references_of_allAttributeNodes children hchildren, ih hrest]
    rfl

end Query

/-- **The text of a lookup block never fails**: it is the layout of the lines above. -/
theorem Block.render_of_isLookupBlock {b : Block} (h : b.IsLookupBlock) :
    b.render = .ok (normalize (join "\n" b.lookupLines)) := by
  have hcheck : Scope.check b.queries = .ok () := by
    unfold Scope.check Scope.checkIn
    rw [Query.references_of_isLookupRoot h.queries]
    rfl
  have hheader : b.header = "\x7b" := by
    rw [header_eq, h.variableTypes, h.aliasName]
    rfl
  unfold lookupLines
  rw [render_eq, lines_eq, hcheck, Query.allRootLines_of_isLookupRoot h.queries, hheader]
  rfl

end Dql
