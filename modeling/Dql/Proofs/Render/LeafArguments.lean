import Dql.Proofs.Render.Filter
import Dql.Proofs.Text.Cut
import Dql.Proofs.Text.Literal

/-!
# Where the literal arguments of filters end

A literal argument of a filter's leaf comes out at one place of the text, and what stands around
that place does not depend on its value. A leaf that compares an attribute writes the value as a
quoted literal, which a reader leaves exactly where the rest of the filter goes on. A leaf
without an attribute, which compares the variables that it uses, writes the value as it is, and
nothing tells it from the filter around it (`Filter.render_literal`).

A leaf stands at the end of a path of connectives. The text of one operand comes out between two
fixed texts (`Filter.Frame.exists_wraps`), the path adds one such pair after the other, and the
leaf adds its own (`Call.exists_wraps_renderLeaf`).
-/

namespace Dql

open Text

/-! ## Leaves -/

namespace Call

/-- What a leaf with arguments compares them with: its attribute or, without one, the variables
that it uses. -/
def comparedText (c : Call) : String :=
  if c.attr = "" then join ", " (c.uses.map Render.usedVariable)
  else
    let attr := Render.attributeText c.attr
    let attr := if c.isValueVariable then Render.valueOf attr else attr
    if c.isCount then Render.application "count" attr else attr ++ Render.language c.lang

/-- How a leaf writes an argument. Next to an attribute it is written as in any call; next to
variables its value is written as it is. -/
def leafArgument (c : Call) (a : Argument) : String :=
  if c.attr = "" then a.value else Render.argument c.isValueVariable a

/-- A call takes an argument as a plain literal: it is not part of a pattern, it is neither the
value of a variable nor a variable of the request, and the call is not over such a value. -/
structure TakesLiteral (c : Call) (a : Argument) : Prop where
  notPattern : c.name ≠ "regexp"
  notOverVariable : c.isValueVariable = false
  notVariable : a.isValueVariable = false
  notRequested : a.isRequestVariable = false

/-- The call with a value for the argument that stands between two lists of others. -/
def withValue (c : Call) (before : List Argument) (a : Argument)
    (after : List Argument) (v : String) : Call :=
  { c with arguments := before ++ { a with value := v } :: after }

variable {c : Call} {a : Argument} {before after : List Argument}
  {node text v₀ : String}

theorem arguments?_of_ne_nil (hne : c.arguments ≠ []) (hname : c.name ≠ "regexp") :
    Render.arguments? c =
      some (join ", " (c.arguments.map (Render.argument c.isValueVariable))) := by
  rw [Render.arguments?_eq]
  cases hargs : c.arguments with
  | nil => exact absurd hargs hne
  | cons first rest => exact if_neg hname

theorem leafArgument_of_takesLiteral (h : c.TakesLiteral a) (v : String) :
    c.leafArgument { a with value := v } = if c.attr = "" then v else quote v := by
  have hquoted : Render.argument c.isValueVariable { a with value := v } = quote v := by
    rw [Render.argument_eq]
    rw [h.notOverVariable, if_neg (by simp [h.notVariable]), if_neg (by simp [h.notRequested])]
  unfold leafArgument
  rw [hquoted]

/-- The text of a leaf with arguments. -/
theorem renderLeaf_eq_ok_iff (hne : c.arguments ≠ []) (hname : c.name ≠ "regexp") :
    c.renderLeaf node = .ok text ↔ (c.attr ≠ "" ∨ c.uses ≠ []) ∧
      Render.application c.name
        (c.comparedText ++ ", " ++ join ", " (c.arguments.map c.leafArgument)) = text := by
  unfold comparedText
  rw [renderLeaf_eq, arguments?_of_ne_nil hne hname]
  by_cases hattr : c.attr = ""
  · -- the arguments as they would be written in a call are not used here
    have hleaf : c.leafArgument = (·.value) := funext fun a => if_pos hattr
    rw [hleaf]
    by_cases huses : c.uses = []
    · simp [hattr, huses]
    · simp [hattr, huses]
  · have hleaf : c.leafArgument = Render.argument c.isValueVariable :=
      funext fun a => if_neg hattr
    rw [hleaf]
    cases c.isCount with
    | false => simp [hattr]
    | true => simp [hattr]

/-- The value of a literal comes out between two fixed texts. -/
theorem exists_wraps_renderLeaf (h : c.TakesLiteral a)
    (hleaf : (c.withValue before a after v₀).renderLeaf node = .ok text) :
    ∃ f, Wraps f ∧ ∀ v, (c.withValue before a after v).renderLeaf node =
      .ok (f (if c.attr = "" then v else quote v)) := by
  have hne : ∀ v, (c.withValue before a after v).arguments ≠ [] := fun v => by simp [withValue]
  obtain ⟨hcompared, -⟩ := (renderLeaf_eq_ok_iff (hne v₀) h.notPattern).1 hleaf
  refine ⟨fun s => Render.application c.name (c.comparedText ++ ", " ++
    join ", " (before.map c.leafArgument ++ s :: after.map c.leafArgument)), ?_, fun v => ?_⟩
  · exact (wraps_between (c.name ++ "(") ")").comp
      ((wraps_behind (c.comparedText ++ ", ")).comp (wraps_join ", " _ _))
  · refine (renderLeaf_eq_ok_iff (hne v) h.notPattern).2 ⟨hcompared, ?_⟩
    show Render.application c.name (c.comparedText ++ ", " ++
      join ", " ((before ++ { a with value := v } :: after).map c.leafArgument)) = _
    rw [List.map_append, List.map_cons, leafArgument_of_takesLiteral h]

end Call

/-! ## When a filter has a text -/

namespace Filter

mutual

/-- The calls that the text of a filter is made of. -/
def leaves : Filter → List Call
  | ⟨_, operands, call⟩ =>
    match call with
    | some call => [call]
    | none => allLeaves operands

/-- The calls that the texts of filters are made of. -/
def allLeaves : List Filter → List Call
  | [] => []
  | f :: rest => f.leaves ++ allLeaves rest

end

section Steps

variable {node op text : String} {f : Filter} {fs : List Filter}
  {texts : List String}

/-- When a filter with a call has a text. -/
theorem render_leaf_eq_ok {call : Call} :
    render node ⟨op, fs, some call⟩ = .ok text ↔ op = "" ∧ call.renderLeaf node = .ok text := by
  rw [render_leaf]
  by_cases hop : op = ""
  · rw [if_pos (by simpa using hop), and_iff_right hop]
  · rw [if_neg (by simpa using hop)]
    exact iff_of_false (by simp) fun h => hop h.1

/-- When a filter without a call has a text. -/
theorem render_connective_eq_ok :
    render node ⟨op, fs, none⟩ = .ok text ↔
      op ≠ "" ∧ fs ≠ [] ∧ ∃ texts, renderAll node fs = .ok texts ∧ connect op texts = text := by
  rw [render_connective]
  by_cases hop : op = ""
  · rw [if_pos (by simpa using hop)]
    exact iff_of_false (by simp) fun h => h.1 hop
  · rw [if_neg (by simpa using hop)]
    by_cases hfs : fs = []
    · rw [if_pos (by simpa using hfs)]
      exact iff_of_false (by simp) fun h => h.2.1 hfs
    · rw [if_neg (by simpa using hfs)]
      constructor
      · exact fun h => ⟨hop, hfs, exists_of_map_eq_ok h⟩
      · rintro ⟨-, -, texts, htexts, hconnect⟩
        rw [htexts, ← hconnect]
        rfl

theorem renderAll_cons_eq_ok :
    renderAll node (f :: fs) = .ok texts ↔ ∃ first more, f.render node = .ok first ∧
      renderAll node fs = .ok more ∧ texts = first :: more := by
  rw [renderAll_cons]
  constructor
  · intro h
    cases hf : f.render node with
    | error e => rw [hf] at h; exact absurd h nofun
    | ok first =>
      rw [hf] at h
      obtain ⟨more, hmore, htexts⟩ := exists_of_map_eq_ok h
      exact ⟨first, more, rfl, hmore, htexts.symm⟩
  · rintro ⟨first, more, hfirst, hmore, rfl⟩
    rw [hfirst, hmore]
    rfl

end Steps

/-! ## The path to a leaf -/

/-- A connective without one of its operands: what stands before that one and after it. -/
structure Frame where
  op : String
  before : List Filter := []
  after : List Filter := []

/-- The connective with the missing operand. -/
def Frame.fill (c : Frame) (f : Filter) : Filter :=
  { op := c.op, operands := c.before ++ f :: c.after }

/-- The filter that has a call as the leaf at the end of a path. The first frame is the outermost.
What stands below the leaf is not written. -/
def withLeaf (frames : List Frame) (below : List Filter)
    (call : Call) : Filter :=
  frames.foldr Frame.fill { operands := below, call := some call }

variable {node text : String} {c : Frame} {f : Filter}

/-- Operands are written one by one, so that another operand with a text can take the place of
one of them. -/
theorem exists_of_renderAll {before after : List Filter} {texts : List String}
    (h : renderAll node (before ++ f :: after) = .ok texts) :
    (∃ s, f.render node = .ok s) ∧ ∃ first more, ∀ g s, render node g = .ok s →
      renderAll node (before ++ g :: after) = .ok (first ++ s :: more) := by
  induction before generalizing texts with
  | nil =>
    obtain ⟨s, more, hs, hmore, -⟩ := renderAll_cons_eq_ok.1 h
    exact ⟨⟨s, hs⟩, [], more, fun g t hg => renderAll_cons_eq_ok.2 ⟨t, more, hg, hmore, rfl⟩⟩
  | cons b before ih =>
    obtain ⟨t, rest, ht, hrest, -⟩ := renderAll_cons_eq_ok.1 h
    obtain ⟨hf, first, more, hall⟩ := ih hrest
    exact ⟨hf, t :: first, more,
      fun g s hg => renderAll_cons_eq_ok.2 ⟨t, first ++ s :: more, ht, hall g s hg, rfl⟩⟩

theorem wraps_connect (op : String) (before after : List String) :
    Wraps fun s => connect op (before ++ s :: after) := by
  unfold connect
  split
  next => exact (wraps_between (op ++ " (") ")").comp (wraps_join ", " before after)
  next => exact (wraps_between "(" ")").comp (wraps_join _ before after)

/-- The text of an operand comes out between two fixed texts. -/
theorem Frame.exists_wraps (h : (c.fill f).render node = .ok text) :
    (∃ s, f.render node = .ok s) ∧ ∃ w, Wraps w ∧ ∀ g s, render node g = .ok s →
      (c.fill g).render node = .ok (w s) := by
  obtain ⟨hop, -, texts, htexts, -⟩ := render_connective_eq_ok.1 h
  obtain ⟨hf, first, more, hall⟩ := exists_of_renderAll htexts
  refine ⟨hf, fun s => connect c.op (first ++ s :: more), wraps_connect c.op first more, ?_⟩
  intro g s hg
  exact render_connective_eq_ok.2 ⟨hop, by simp, first ++ s :: more, hall g s hg, rfl⟩

/-- The text at the end of a path comes out between two fixed texts. -/
theorem exists_wraps_path {frames : List Frame}
    (h : (frames.foldr Frame.fill f).render node = .ok text) :
    (∃ s, f.render node = .ok s) ∧ ∃ w, Wraps w ∧ ∀ g s, render node g = .ok s →
      (frames.foldr Frame.fill g).render node = .ok (w s) := by
  induction frames generalizing text with
  | nil => exact ⟨⟨text, h⟩, fun s => s, ⟨"", "", fun s => by simp⟩, fun g s hg => hg⟩
  | cons c frames ih =>
    -- the text around the outermost operand, then that around the rest of the path
    obtain ⟨⟨s, hs⟩, outer, houter, hfill⟩ := Frame.exists_wraps h
    obtain ⟨hf, inner, hinner, hpath⟩ := ih hs
    exact ⟨hf, fun s => outer (inner s), houter.comp hinner,
      fun g s hg => hfill _ _ (hpath g s hg)⟩

/-! ## Each leaf has a path -/

mutual

/-- A leaf of a filter that has a text stands at the end of a path. -/
theorem exists_path {call : Call} {text : String} : ∀ f : Filter,
    f.render node = .ok text → call ∈ f.leaves → ∃ frames below, f = withLeaf frames below call
  | ⟨op, operands, some c⟩ => by
    intro h hcall
    obtain ⟨rfl, -⟩ := render_leaf_eq_ok.1 h
    rw [leaves] at hcall
    obtain rfl := List.mem_singleton.1 hcall
    exact ⟨[], operands, rfl⟩
  | ⟨op, operands, none⟩ => by
    intro h hcall
    obtain ⟨-, -, texts, htexts, -⟩ := render_connective_eq_ok.1 h
    rw [leaves] at hcall
    obtain ⟨before, frames, below, after, rfl⟩ := exists_path_below operands htexts hcall
    exact ⟨{ op := op, before := before, after := after } :: frames, below, rfl⟩

/-- A leaf of several filters stands at the end of a path in one of them. -/
theorem exists_path_below {call : Call} {texts : List String} :
    ∀ fs : List Filter, renderAll node fs = .ok texts → call ∈ allLeaves fs →
      ∃ before frames below after, fs = before ++ withLeaf frames below call :: after
  | [] => by
    intro _ hcall
    exact absurd hcall List.not_mem_nil
  | f :: rest => by
    intro h hcall
    obtain ⟨s, more, hs, hmore, -⟩ := renderAll_cons_eq_ok.1 h
    rw [allLeaves] at hcall
    rcases List.mem_append.1 hcall with hcall | hcall
    · obtain ⟨frames, below, rfl⟩ := exists_path f hs hcall
      exact ⟨[], frames, below, rest, rfl⟩
    · obtain ⟨first, frames, below, after, rfl⟩ := exists_path_below rest hmore hcall
      exact ⟨f :: first, frames, below, after, rfl⟩

end

/-! ## Literal arguments -/

/-- The value of a literal at the end of a path comes out between two fixed texts. -/
theorem exists_render_withLeaf {frames : List Frame} {below : List Filter}
    {call : Call} {a : Argument} {before after : List Argument} {v₀ : String}
    (hliteral : call.TakesLiteral a)
    (h : (withLeaf frames below (call.withValue before a after v₀)).render node = .ok text) :
    ∃ front back, ∀ v, (withLeaf frames below (call.withValue before a after v)).render node =
      .ok (front ++ (if call.attr = "" then v else quote v) ++ back) := by
  obtain ⟨⟨s, hs⟩, path, hpath, hfill⟩ := exists_wraps_path h
  obtain ⟨leaf, hleaf, hvalue⟩ :=
    Call.exists_wraps_renderLeaf hliteral (render_leaf_eq_ok.1 hs).2
  obtain ⟨front, back, hwraps⟩ := hpath.comp hleaf
  refine ⟨front, back, fun v => ?_⟩
  rw [withLeaf, hfill _ _ (render_leaf_eq_ok.2 ⟨rfl, hvalue v⟩)]
  exact congrArg Except.ok (hwraps _)

/-- A quoted literal is left where the text behind it starts, whatever its value is. -/
theorem splitLiteral_quote (v back : String) :
    splitLiteral '"' ((quote v ++ back).toList.drop 1) =
      some ((quote v).toList.drop 1, back.toList) := by
  have hinside : (quote v).toList.drop 1 = escape v.toList ++ ['"'] := by
    rw [toList_quote]
    rfl
  have htext : (quote v ++ back).toList.drop 1 = escape v.toList ++ '"' :: back.toList := by
    rw [String.toList_append, toList_quote, List.cons_append, List.drop_one, List.tail_cons,
      List.append_assoc, List.singleton_append]
  rw [htext, hinside, splitLiteral_escape]

/-- **A literal argument is quoted next to an attribute, and only there.** Each leaf of a filter
that has a text stands at the end of a path, and a literal argument of a leaf comes out at one
place of the text, whatever its value is. If the leaf has an attribute, then the value is quoted,
and a reader of the literal leaves it where the fixed text behind it starts: no value closes the
call or adds anything to the filter. If the leaf has none, then the value is written as it is. -/
theorem render_literal (f : Filter) (node text : String)
    (hrender : f.render node = .ok text) :
    (∀ call ∈ f.leaves, ∃ frames below, f = withLeaf frames below call) ∧
      ∀ frames below call before a after v₀,
        f = withLeaf frames below (Call.withValue call before a after v₀) → call.TakesLiteral a →
        ∃ front back,
          (call.attr ≠ "" → ∀ v,
            (withLeaf frames below (call.withValue before a after v)).render node =
              .ok (front ++ quote v ++ back) ∧
            splitLiteral '"' ((quote v ++ back).toList.drop 1) =
              some ((quote v).toList.drop 1, back.toList)) ∧
          (call.attr = "" → ∀ v,
            (withLeaf frames below (call.withValue before a after v)).render node =
              .ok (front ++ v ++ back)) := by
  refine ⟨fun call hcall => exists_path f hrender hcall, ?_⟩
  rintro frames below call before a after v₀ rfl hliteral
  obtain ⟨front, back, hvalue⟩ := exists_render_withLeaf hliteral hrender
  refine ⟨front, back, fun hattr v => ?_, fun hattr v => ?_⟩
  · have htext := hvalue v
    rw [if_neg hattr] at htext
    exact ⟨htext, splitLiteral_quote v back⟩
  · have htext := hvalue v
    rwa [if_pos hattr] at htext

/-- A comparison of an attribute or, without one, of a variable. -/
def comparison (attr : String) : Call :=
  { name := "eq", attr := attr, uses := [⟨"a", .values⟩] }

/-- A comparison with a value, next to another condition. -/
def narrowed (attr value : String) : Filter :=
  withLeaf [{ op := "and", before := [{ call := some { name := "has", attr := "age" } }] }] []
    ((comparison attr).withValue [] {} [] value)

theorem render_literal_narrowed :
    (narrowed "name" "1) or has(secret").render "me" =
        .ok "(has(age) and eq(name, \"1) or has(secret\"))" ∧
      ∃ front back, ∀ v, (narrowed "name" v).render "me" = .ok (front ++ quote v ++ back) := by
  have hrender : (narrowed "name" "1) or has(secret").render "me" =
      .ok "(has(age) and eq(name, \"1) or has(secret\"))" := rfl
  have hliteral : (comparison "name").TakesLiteral {} := ⟨by decide, rfl, rfl, rfl⟩
  obtain ⟨front, back, hquoted, -⟩ :=
    (render_literal _ _ _ hrender).2 _ [] (comparison "name") [] {} [] _ rfl hliteral
  exact ⟨hrender, front, back, fun v => (hquoted (by decide) v).1⟩

/-- Next to a variable a literal closes the call and adds a condition; it is not in the text as a
quoted literal. -/
theorem render_narrowed_variable :
    (comparison "").TakesLiteral {} ∧
      (narrowed "" "1) or has(secret").render "me" =
        .ok "(has(age) and eq(val(a), 1) or has(secret))" ∧
      ¬ (quote "1) or has(secret").toList <:+:
        "(has(age) and eq(val(a), 1) or has(secret))".toList :=
  ⟨⟨by decide, rfl, rfl, rfl⟩, rfl, by decide +kernel⟩

end Filter

end Dql
