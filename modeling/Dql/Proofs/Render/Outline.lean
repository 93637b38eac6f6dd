import Mathlib.Data.List.Forall2
import Dql.Proofs.Render.LookupLine
import Dql.Proofs.Render.OneLine

/-!
# The layout of a block is the shape of its tree

The outline of a block lists, top down, the lines that its tree asks for: the line that
opens the request, for each root a line that opens its block and one that closes it around
the lines of the nodes below, for each of those nodes its line and, if it opens a block, the
lines of its children one level deeper and a line that closes it, and at the end the line
that closes the request. Each entry has its depth.

The lines of a block's text are its outline, line for line, each indented by four spaces for
a level of its depth (`Block.outline_render`): layout loses no line, splits none and moves
none to another level. This holds if no string that a line is written with and that stands
there without quotes holds a line feed, and if the names that a line may start with hold no
blanks. Without that a line could start with more blanks than its depth has, or have nothing
else in it.

The lines that the writer puts together are the outline without any condition
(`Block.outline_lines`); what layout does to them is known once they are known to be one
line each and to start behind their indentation (`LineKind.startsAt`).
-/

namespace Dql

open Text

/-! ## Outlines -/

/-- What a line of a block's text is there for. -/
inductive LineKind where
  /-- It opens the request. -/
  | header
  /-- It opens the block of a root. -/
  | root (clause : Clause) (hasChildren : Bool)
  /-- It is the line of a node below a root, which opens a block if it is to. -/
  | node (clause : Clause) (hasChildren : Bool)
  /-- It closes a block, or the request. -/
  | close

/-- A line of an outline. -/
structure OutlineEntry where
  depth : Nat
  kind : LineKind

mutual

/-- The outline of a node below a root. An internal node opens no block. -/
def Query.outlineBelow (depth : Nat) : Query → List OutlineEntry
  | ⟨clause, _, children⟩ =>
    ⟨depth, .node clause (!children.isEmpty)⟩ ::
      if clause.isInternal || children.isEmpty then []
      else Query.allOutlinesBelow (depth + 1) children ++ [⟨depth, .close⟩]

/-- The outline of nodes below a root. -/
def Query.allOutlinesBelow (depth : Nat) : List Query → List OutlineEntry
  | [] => []
  | q :: rest => q.outlineBelow depth ++ Query.allOutlinesBelow depth rest

end

/-- The outline of a root. It opens a block in any case. -/
def Query.outline (depth : Nat) (q : Query) : List OutlineEntry :=
  ⟨depth, .root q.clause (!q.children.isEmpty)⟩ ::
    Query.allOutlinesBelow (depth + 1) q.children ++ [⟨depth, .close⟩]

/-- The outline of a block. -/
def Block.outline (b : Block) : List OutlineEntry :=
  ⟨0, .header⟩ :: b.queries.flatMap (Query.outline 1) ++ [⟨0, .close⟩]

/-- The names of a node: its variable, its alias, its attribute and its function. -/
def Clause.names (c : Clause) : List String :=
  c.variableName :: c.aliasName :: c.attr :: (c.call.map (·.name)).toList

namespace LineKind

/-- The line of a kind as the writer puts it together at a depth. -/
def written (b : Block) (depth : Nat) : LineKind → Except RenderError String
  | header => .ok (indent depth ++ b.header)
  | root clause hasChildren => clause.rootLine depth hasChildren
  | node clause hasChildren =>
    (clause.childLine depth hasChildren).map fun line =>
      if clause.isInternal || !hasChildren then line else line ++ " \x7b"
  | close => .ok (closingLine depth)

/-- The strings that a line is written with and that stand there without quotes. -/
def unquoted (b : Block) : LineKind → List String
  | header => b.unquotedHeader
  | root clause _ => clause.unquotedRootLine
  | node clause _ => clause.unquotedChildParts
  | close => []

/-- The names of the node that a line is about. -/
def names : LineKind → List String
  | root clause _ | node clause _ => clause.names
  | header | close => []

end LineKind

/-! ## The lines of the writer -/

/-- A text is the line that an entry of the outline asks for. -/
def OutlineEntry.Writes (b : Block) (e : OutlineEntry) (line : String) : Prop :=
  e.kind.written b e.depth = .ok line

namespace Query

variable {b : Block}

mutual

theorem outlineBelow_childLines {depth : Nat} {lines : List String} :
    ∀ q : Query, q.childLines depth = .ok lines →
      List.Forall₂ (OutlineEntry.Writes b) (q.outlineBelow depth) lines
  | ⟨clause, _, children⟩ => by
    intro h
    obtain ⟨line, hline, hlines⟩ := childLines_cases h
    rw [outlineBelow]
    have hown : OutlineEntry.Writes b ⟨depth, .node clause (!children.isEmpty)⟩
        (if clause.isInternal || children.isEmpty then line else line ++ " \x7b") := by
      unfold OutlineEntry.Writes LineKind.written
      dsimp only
      rw [hline, Bool.not_not]
      rfl
    -- the writer and the outline leave the children out under the same condition
    rcases hlines with ⟨hinternal, rfl⟩ | ⟨-, rfl, rfl⟩ | ⟨hinternal, hne, below, hbelow, rfl⟩
    · rw [hinternal, Bool.true_or, if_pos rfl] at hown ⊢
      exact .cons hown .nil
    · rw [List.isEmpty_nil, Bool.or_true, if_pos rfl] at hown
      rw [List.isEmpty_nil, Bool.or_true, if_pos rfl]
      exact .cons hown .nil
    · have hinline : ¬ (clause.isInternal || children.isEmpty) = true := by
        simpa [hinternal] using hne
      rw [if_neg hinline] at hown ⊢
      have hclose : OutlineEntry.Writes b ⟨depth, .close⟩ (closingLine depth) := rfl
      exact .cons hown
        (List.rel_append (allOutlinesBelow_allChildLines children hbelow) (.cons hclose .nil))

theorem allOutlinesBelow_allChildLines {depth : Nat} {lines : List String} :
    ∀ qs : List Query, allChildLines depth qs = .ok lines →
      List.Forall₂ (OutlineEntry.Writes b) (allOutlinesBelow depth qs) lines
  | [] => by
    intro h
    obtain rfl := Except.ok.inj h
    exact .nil
  | q :: rest => by
    intro h
    obtain ⟨first, more, hfirst, hmore, rfl⟩ := allChildLines_cons_eq_ok.1 h
    rw [allOutlinesBelow]
    exact List.rel_append (outlineBelow_childLines q hfirst)
      (allOutlinesBelow_allChildLines rest hmore)

end

theorem outline_rootLines {depth : Nat} {q : Query} {lines : List String}
    (h : q.rootLines depth = .ok lines) :
    List.Forall₂ (OutlineEntry.Writes b) (q.outline depth) lines := by
  rw [rootLines_eq] at h
  obtain ⟨line, hline, h⟩ := exists_of_bind_eq_ok h
  obtain ⟨below, hbelow, h⟩ := exists_of_bind_eq_ok h
  obtain rfl := Except.ok.inj h
  have hclose : OutlineEntry.Writes b ⟨depth, .close⟩ (closingLine depth) := rfl
  exact .cons hline
    (List.rel_append (allOutlinesBelow_allChildLines q.children hbelow) (.cons hclose .nil))

theorem outlines_allRootLines {depth : Nat} {qs : List Query} {lines : List String}
    (h : allRootLines depth qs = .ok lines) :
    List.Forall₂ (OutlineEntry.Writes b) (qs.flatMap (outline depth)) lines := by
  induction qs generalizing lines with
  | nil =>
    obtain rfl := Except.ok.inj h
    exact .nil
  | cons q rest ih =>
    rw [allRootLines_cons] at h
    obtain ⟨first, hfirst, h⟩ := exists_of_bind_eq_ok h
    obtain ⟨more, hmore, h⟩ := exists_of_bind_eq_ok h
    obtain rfl := Except.ok.inj h
    rw [List.flatMap_cons]
    exact List.rel_append (outline_rootLines hfirst) (ih hmore)

end Query

/-- **The lines that a block is written in are its outline**, one for one. -/
theorem Block.outline_lines {b : Block} {lines : List String} (h : b.lines = .ok lines) :
    List.Forall₂ (OutlineEntry.Writes b) b.outline lines := by
  rw [lines_eq] at h
  obtain ⟨below, hbelow, rfl⟩ := exists_of_map_eq_ok h
  have hheader : OutlineEntry.Writes b ⟨0, .header⟩ b.header :=
    congrArg Except.ok (String.empty_append (s := b.header))
  have hclose : OutlineEntry.Writes b ⟨0, .close⟩ "\x7d" := rfl
  exact .cons hheader (List.rel_append (Query.outlines_allRootLines hbelow) (.cons hclose .nil))

/-! ## What a line starts with -/

/-- A line that starts right behind its indentation, with a character that is no blank. -/
def StartsAt (depth : Nat) (line : String) : Prop :=
  ∃ body, line = indent depth ++ body ∧ Starts body

theorem StartsAt.append {depth : Nat} {line : String} (h : StartsAt depth line) (t : String) :
    StartsAt depth (line ++ t) := by
  obtain ⟨body, rfl, hbody⟩ := h
  exact ⟨body ++ t, String.append_assoc, hbody.append t⟩

namespace Clause

variable {c : Clause}

/-- A line starts with the variable that results are bound to, or what follows it. -/
theorem startsAt_bindingText (depth : Nat) (h : c.variableName.toList.any isBlank = false)
    {t : String} (ht : Starts t) : StartsAt depth (indent depth ++ c.bindingText ++ t) := by
  refine ⟨c.bindingText ++ t, String.append_assoc, ?_⟩
  rw [bindingText_eq]
  exact .unlessEmpty (fun hne => (Starts.word hne h).append _) ht

theorem starts_aliasText (h : c.aliasName.toList.any isBlank = false) {t : String}
    (ht : Starts t) : Starts (c.aliasText ++ t) := by
  rw [aliasText_eq]
  exact .unlessEmpty (fun hne => (Starts.word hne h).append _) ht

theorem starts_application {name : String} (h : Starts name) (inside : String) :
    Starts (Render.application name inside) :=
  ((h.append _).append _).append _

section Function

variable {call : Call} {text : String}

theorem starts_functionText (hname : call.name.toList.any isBlank = false)
    (h : c.functionText call = .ok text) : Starts text := by
  rw [functionText_eq] at h
  split at h
  · exact absurd h (by simp)
  next hne =>
    have hstarts := starts_application (Starts.word hne hname)
    dsimp only at h
    -- whatever the arguments are, the name stands in front of them
    repeat' split at h
    all_goals
      obtain rfl := Except.ok.inj h
      exact hstarts _

theorem starts_passwordText (h : c.passwordText call = .ok text) : Starts text := by
  rw [passwordText_eq] at h
  split at h
  · exact absurd h (by simp)
  · split at h
    · obtain rfl := Except.ok.inj h
      exact starts_application (by decide) _
    · exact absurd h (by simp)

end Function

theorem starts_attributeText (h : c.attr.toList.any isBlank = false)
    (hne : ¬ c.attr.isEmpty = true) : Starts (Render.attributeText c.attr) := by
  unfold Render.attributeText bracketed
  split
  · exact ((by decide : Starts "<").append _).append _
  · exact .word hne h

theorem starts_attributeLine (halias : c.aliasName.toList.any isBlank = false)
    (hattr : c.attr.toList.any isBlank = false) {text : String} (h : c.attributeLine = .ok text) :
    Starts text := by
  rw [attributeLine_eq] at h
  split at h
  · split at h
    · exact absurd h (by simp)
    next hne =>
      obtain rfl := Except.ok.inj h
      exact (Starts.word hne halias).append _
  next hne =>
    obtain rfl := Except.ok.inj h
    have hname : Starts c.attributeWithLanguages := (starts_attributeText hattr hne).append _
    exact ((starts_aliasText halias hname).append _).append _

/-- A root that has a line has a name. -/
theorem resultName_ne_of_rootLine {depth : Nat} {hasChildren : Bool} {text : String}
    (h : c.rootLine depth hasChildren = .ok text) : ¬ c.resultName.isEmpty = true := by
  intro hempty
  rw [rootLine_eq, if_pos hempty] at h
  obtain ⟨_, hthrow, _⟩ := exists_of_bind_eq_ok h
  cases hthrow

section Names

variable (hnames : ∀ s ∈ c.names, s.toList.any isBlank = false)

include hnames

/-- What a node is about starts with its alias, its function, a word of the language or its
attribute. -/
theorem starts_body {text : String} (h : c.body = .ok text) : Starts text := by
  have halias : c.aliasName.toList.any isBlank = false := hnames _ (by simp [names])
  have hattr : c.attr.toList.any isBlank = false := hnames _ (by simp [names])
  rw [body_eq] at h
  cases hcall : c.call with
  | some call =>
    rw [hcall] at h
    obtain ⟨text, htext, rfl⟩ := exists_of_map_eq_ok h
    refine starts_aliasText halias ?_
    split at htext
    · exact starts_passwordText htext
    · exact starts_functionText (hnames _ (by simp [names, hcall])) htext
  | none =>
    rw [hcall] at h
    cases hmath : c.math with
    | some e =>
      rw [hmath] at h
      obtain ⟨text, htext, rfl⟩ := exists_of_map_eq_ok h
      rw [MathExpr.render_eq] at htext
      obtain ⟨inside, -, rfl⟩ := exists_of_map_eq_ok htext
      exact starts_aliasText halias ((by decide : Starts "math").append _)
    | none =>
      rw [hmath] at h
      dsimp only at h
      split at h
      · obtain ⟨text, htext, rfl⟩ := exists_of_map_eq_ok h
        rw [countText_eq] at htext
        obtain ⟨directive, -, rfl⟩ := exists_of_map_eq_ok htext
        exact starts_aliasText halias (starts_application (by decide) _)
      · split at h
        · obtain rfl := Except.ok.inj h
          exact starts_aliasText halias (starts_application (by decide) _)
        · exact starts_attributeLine halias hattr h

theorem starts_resultName (hne : ¬ c.resultName.isEmpty = true) : Starts c.resultName := by
  unfold resultName at hne ⊢
  split
  next halias =>
    rw [if_pos halias] at hne
    exact .word hne (hnames _ (by simp [names]))
  next halias => exact .word halias (hnames _ (by simp [names]))

theorem startsAt_childLine {depth : Nat} {hasChildren : Bool} {text : String}
    (h : c.childLine depth hasChildren = .ok text) : StartsAt depth text := by
  rw [childLine_eq] at h
  obtain ⟨body, hbody, h⟩ := exists_of_bind_eq_ok h
  obtain ⟨directives, -, h⟩ := exists_of_bind_eq_ok h
  obtain rfl := Except.ok.inj h
  have hbinding := startsAt_bindingText depth (hnames c.variableName (by simp [names]))
    (starts_body hnames hbody)
  exact hbinding.append directives

theorem startsAt_rootLine {depth : Nat} {hasChildren : Bool} {text : String}
    (h : c.rootLine depth hasChildren = .ok text) : StartsAt depth text := by
  have hbinding := startsAt_bindingText depth (hnames c.variableName (by simp [names]))
    (starts_resultName hnames (resultName_ne_of_rootLine h))
  obtain ⟨function, directives, -, -, rfl⟩ := exists_rootLine_eq h
  exact ((((hbinding.append _).append _).append _).append _).append _

end Names

end Clause

theorem Block.starts_header (b : Block) : Starts b.header := by
  rw [header_eq]
  dsimp only
  split
  · exact (((((by decide : Starts "query").append _).append _).append _).append _)
  · split
    · exact (((by decide : Starts "query").append _).append _)
    · decide

namespace LineKind

variable {b : Block} {depth : Nat} {text : String}

/-- **A line starts right behind its indentation**, if the names hold no blanks. -/
theorem startsAt {k : LineKind} (h : k.written b depth = .ok text)
    (hnames : ∀ s ∈ k.names, s.toList.any isBlank = false) : StartsAt depth text := by
  cases k with
  | header =>
    obtain rfl := Except.ok.inj h
    exact ⟨_, rfl, b.starts_header⟩
  | root clause hasChildren => exact Clause.startsAt_rootLine hnames h
  | node clause hasChildren =>
    obtain ⟨line, hline, rfl⟩ := exists_of_map_eq_ok h
    have hstarts := Clause.startsAt_childLine hnames hline
    split
    · exact hstarts
    · exact hstarts.append _
  | close =>
    obtain rfl := Except.ok.inj h
    exact ⟨_, rfl, by decide⟩

/-- A line is one line if the strings are that it is written with. -/
theorem oneLine {k : LineKind} (h : k.written b depth = .ok text)
    (hplain : ∀ s ∈ k.unquoted b, OneLine s) : OneLine text := by
  cases k with
  | header =>
    obtain rfl := Except.ok.inj h
    exact (oneLine_indent depth).append (Block.oneLine_header hplain)
  | root clause hasChildren => exact Clause.oneLine_rootLine h hplain
  | node clause hasChildren =>
    obtain ⟨line, hline, rfl⟩ := exists_of_map_eq_ok h
    have hone := Clause.oneLine_childLine hline hplain
    split
    · exact hone
    · exact hone.append (by decide)
  | close =>
    obtain rfl := Except.ok.inj h
    exact oneLine_closingLine depth

end LineKind

/-! ## The layout -/

/-- A line of a block's text is the line of an entry: what layout makes of the line that is
put together for it, indented by four spaces for a level and with something else behind
them. A line that closes has nothing there but the bracket. -/
structure OutlineEntry.IsLaidOut (b : Block) (e : OutlineEntry) (line : List Char) : Prop where
  written : ∃ text, e.Writes b text ∧ line = laidOut text.toList
  indented : ∃ c rest, line = List.replicate (4 * e.depth) ' ' ++ c :: rest ∧ isBlank c = false
  closes : e.kind = .close → line = List.replicate (4 * e.depth) ' ' ++ ['\x7d']

theorem toList_indent (depth : Nat) :
    (indent depth).toList = List.replicate (4 * depth) ' ' := String.toList_ofList

namespace OutlineEntry

variable {b : Block} {e : OutlineEntry} {text : String}

/-- A line that starts behind its indentation is indented as it was, once it is laid out. -/
theorem isLaidOut (h : e.Writes b text)
    (hnames : ∀ s ∈ e.kind.names, s.toList.any isBlank = false) :
    e.IsLaidOut b (laidOut text.toList) where
  written := ⟨text, h, rfl⟩
  indented := by
    obtain ⟨body, rfl, hbody⟩ := LineKind.startsAt h hnames
    obtain ⟨c, rest, hrest, hc⟩ := hbody.exists_cons
    obtain ⟨more, hmore⟩ := exists_laidOut_eq Clause.mem_indent hc rest
    refine ⟨c, more, ?_, hc⟩
    rw [String.toList_append, hrest, hmore, toList_indent]
  closes hclose := by
    unfold Writes at h
    rw [hclose] at h
    obtain rfl := Except.ok.inj h
    have hnormal : IsNormalLine ((indent e.depth).toList ++ ['\x7d']) :=
      Clause.isNormalLine_indent (by decide)
    rw [← toList_indent, closingLine_eq, String.toList_append]
    exact laidOut_of_isNormalLine hnormal

/-- A line that is put together for an entry is one line, and is not blank. -/
theorem isLine (h : e.Writes b text)
    (hnames : ∀ s ∈ e.kind.names, s.toList.any isBlank = false)
    (hplain : ∀ s ∈ e.kind.unquoted b, OneLine s) :
    OneLine text ∧ text.toList.all isBlank = false := by
  refine ⟨LineKind.oneLine h hplain, ?_⟩
  obtain ⟨body, rfl, hbody⟩ := LineKind.startsAt h hnames
  obtain ⟨c, rest, hrest, hc⟩ := hbody.exists_cons
  rw [String.toList_append, List.all_append, hrest, List.all_cons, hc, Bool.false_and,
    Bool.and_false]

end OutlineEntry

/-- **The layout of a block's text is the shape of its tree.** The lines of the text are the
entries of the outline, one for one and in order, each at its depth. It is asked that the
names of the nodes hold no blanks, and that no string holds a line feed that a line is
written with and that stands there without quotes. -/
theorem Block.outline_render {b : Block} {text : String} (h : b.render = .ok text)
    (hnames : ∀ e ∈ b.outline, ∀ s ∈ e.kind.names, s.toList.any isBlank = false)
    (hplain : ∀ e ∈ b.outline, ∀ s ∈ e.kind.unquoted b, OneLine s) :
    List.Forall₂ (OutlineEntry.IsLaidOut b) b.outline (Text.lines text.toList) := by
  obtain ⟨ls, hlines, rfl⟩ := exists_render_eq h
  have hwrites : List.Forall₂ (fun e l => e ∈ b.outline ∧ e.Writes b l) b.outline ls :=
    (List.forall₂_and_left _ _).2 ⟨fun _ he => he, outline_lines hlines⟩
  have hls : ∀ l ∈ ls, OneLine l ∧ l.toList.all isBlank = false := by
    have hpairs : List.Forall₂ (fun l e => (OneLine l ∧ l.toList.all isBlank = false) ∧
        e.Writes b l) ls b.outline :=
      List.Forall₂.flip (hwrites.imp fun e l h =>
        ⟨OutlineEntry.isLine h.2 (hnames e h.1) (hplain e h.1), h.2⟩)
    exact ((List.forall₂_and_left _ _).1 hpairs).1
  -- the last line is the bracket that closes the request, so the text loses nothing at its end
  rw [lines_eq] at hlines
  obtain ⟨below, -, rfl⟩ := exists_of_map_eq_ok hlines
  rw [lines_normalize_join hls (by decide), List.forall₂_map_right_iff]
  exact hwrites.imp fun e l h => OutlineEntry.isLaidOut h.2 (hnames e h.1)

namespace Block

/-- A block with a literal that holds a line feed, languages with blanks and a carriage
return, an internal node that hides a child, an expression, and a root without children. -/
def nested : Block where
  aliasName := "q"
  queries := [
    { clause := {
        aliasName := "me", call := some { name := "uid" }, ids := [1],
        filter := some { call := some {
          name := "eq", attr := "note", arguments := [{ value := "one\n  two" }] } } },
      children := [
        { clause := { attr := "friend", cascade := true },
          children := [{ clause := { attr := "name", langs := ["en  ", "\r"] } }] },
        { clause := { attr := "boss", isInternal := true },
          children := [{ clause := { attr := "name" } }] },
        { clause := { aliasName := "two", math := some { fn := "+", operands := [
            { constant := { typeId := 1, value := .ofNat 1 } },
            { constant := { typeId := 9, value := .string "1" } }] } } }] },
    { clause := { aliasName := "none", call := some { name := "uid" }, ids := [2] } }]

/-- The lines that this block is written in, before they are laid out. -/
def nestedLines : List String :=
  ["query q \x7b",
    "    me(func: uid(0x01)) @filter(eq(note, \"one\\n  two\")) \x7b",
    "        friend @cascade \x7b",
    "            name@en  :\r",
    "        \x7d",
    "        boss",
    "        two: math(1+1)",
    "    \x7d",
    "    none(func: uid(0x02)) \x7b",
    "    \x7d",
    "\x7d"]

theorem outline_render_nested :
    (∀ e ∈ nested.outline, ∀ s ∈ e.kind.names, s.toList.any isBlank = false) ∧
      (∀ e ∈ nested.outline, ∀ s ∈ e.kind.unquoted nested, OneLine s) ∧
      nested.outline.map (·.depth) = [0, 1, 2, 3, 2, 2, 2, 1, 1, 1, 0] ∧
      ∃ text, nested.render = .ok text ∧ text = normalize (join "\n" nestedLines) ∧
        List.Forall₂ (OutlineEntry.IsLaidOut nested) nested.outline (Text.lines text.toList) := by
  have hnames : ∀ e ∈ nested.outline, ∀ s ∈ e.kind.names, s.toList.any isBlank = false := by
    decide
  have hplain : ∀ e ∈ nested.outline, ∀ s ∈ e.kind.unquoted nested, OneLine s := by decide
  have hrender : nested.render = .ok (normalize (join "\n" nestedLines)) := by
    have hcheck : Scope.check nested.queries = .ok () := rfl
    have hlines : nested.lines = .ok nestedLines := by decide
    rw [render_eq, hcheck, hlines]
    rfl
  exact ⟨hnames, hplain, rfl, _, hrender, rfl, outline_render hrender hnames hplain⟩

end Block

end Dql
