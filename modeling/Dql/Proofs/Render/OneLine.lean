import Dql.Proofs.Json.Compact
import Dql.Proofs.Render.Block
import Dql.Proofs.Text.Lines

/-!
# A line that is written is one line

A phrase without line breaks has a line feed in its text only if one of the strings holds one
that it has without quotes (`Phrase.oneLine_written`): no word and no sign does, and literals
never break a line, since their line feeds are escaped. The lines of a block consist of what is
listed for them, so this says of each line when it is one (`Clause.oneLine_childLine`,
`Clause.oneLine_rootLine`, `Block.oneLine_header`).

Of an expression, the strings that matter are its operators, its variables and its
constants that are strings (`MathExpr.unquotedParts`): a constant of another kind is written
as a JSON value, which is one line.
-/

namespace Dql

open Text

/-! ## Pieces -/

variable {isUri : String → Bool}

theorem Name.oneLine_text {n : Name} (h : OneLine n.word) : OneLine (n.text isUri) := by
  cases n with
  | reference name => exact h
  | ordered name kind => exact h
  | predicate place name =>
    cases place with
    | subject =>
      show OneLine (bracketed isUri name)
      unfold bracketed
      split
      · exact OneLine.within h (by decide) (by decide)
      · exact h
    | applied | ordering | grouping => exact h

theorem Uid.oneLine_format (u : Uid) : OneLine u.format := fun hmem =>
  absurd (mem_format hmem) (by decide)

theorem Term.oneLine_text {t : Term} (h : ∀ s ∈ t.strings, OneLine s) :
    OneLine (t.text isUri) := by
  cases t with
  | own s => exact h s List.mem_cons_self
  | literal s => exact .quote s
  | identifier uid => exact uid.oneLine_format
  | name n => exact n.oneLine_text (h _ List.mem_cons_self)
  | values ns =>
    refine (OneLine.join (by decide) fun t ht => ?_).within (by decide) (by decide)
    obtain ⟨n, hn, rfl⟩ := List.mem_map.1 ht
    exact n.oneLine_text (h _ (List.mem_map_of_mem hn))

theorem Piece.oneLine_text {p : Piece} (hbreak : p ≠ .lineBreak)
    (h : ∀ t ∈ p.terms, ∀ s ∈ t.strings, OneLine s) : OneLine (p.text isUri) := by
  cases p with
  | mark m =>
    exact fun hmem => absurd (List.all_eq_true.1 m.plain _ hmem) (by decide)
  | term t => exact t.oneLine_text (h t List.mem_cons_self)
  | applied head arguments =>
    obtain ⟨hhead, harguments⟩ := List.forall_mem_cons.1 h
    have hname : OneLine (head.text isUri ++ "(") :=
      (head.oneLine_text (hhead _ List.mem_cons_self)).append (by decide)
    refine (OneLine.join (by decide) fun t ht => ?_).within hname (by decide)
    obtain ⟨a, ha, rfl⟩ := List.mem_map.1 ht
    exact a.oneLine_text (harguments a ha)
  | lineBreak => exact absurd rfl hbreak

namespace Phrase

/-- **A phrase within one line is one line** if the strings are that it has without quotes. -/
theorem oneLine_written {t : Phrase} (hbreak : .lineBreak ∉ t) (h : ∀ s ∈ t.strings, OneLine s) :
    OneLine t.written := by
  induction t with
  | nil => decide
  | cons p rest ih =>
    rw [strings, allTerms, List.flatMap_cons, List.flatMap_append, List.forall_mem_append] at h
    rw [List.mem_cons, not_or] at hbreak
    exact (p.oneLine_text (Ne.symm hbreak.1) fun t ht s hs =>
      h.1 s (List.mem_flatMap.2 ⟨t, ht, hs⟩)).append (ih hbreak.2 h.2)

theorem Consists.oneLine_written {t : Phrase} {c : Contents} (ht : t.Consists c)
    (h : ∀ s ∈ c.own, OneLine s) : OneLine t.written :=
  Phrase.oneLine_written ht.oneLine fun s hs => h s (ht.own s hs)

end Phrase

/-! ## Expressions -/

namespace MathExpr

/-- The unquoted string of an operand: its constant if that is a string, else its variable
if it has no constant. -/
def operandPart (name : String) (constant : Scalar) : List String :=
  if !constant.isEmpty then
    match constant.value with
    | .string s => [s]
    | _ => []
  else [name]

/-- The operator of an expression, as often as it is written. -/
def operatorParts (fn : String) (operands : List MathExpr) : List String :=
  match styleOf fn with
  | .negation => []
  | .application name => [name]
  | .infixed => List.replicate (operands.length - 1) fn

mutual

/-- The unquoted strings of an expression, one by one. -/
def unquotedParts : MathExpr → List String
  | ⟨fn, name, constant, _, operands⟩ =>
    if fn.isEmpty then operandPart name constant
    else operatorParts fn operands ++ allUnquotedParts operands

/-- The unquoted strings of expressions. -/
def allUnquotedParts : List MathExpr → List String
  | [] => []
  | e :: rest => e.unquotedParts ++ allUnquotedParts rest

end

theorem oneLine_operandText {node name text : String} {constant : Scalar}
    (h : operandText node name constant = .ok text)
    (hplain : ∀ s ∈ operandPart name constant, OneLine s) : OneLine text := by
  unfold operandText at h
  unfold operandPart at hplain
  by_cases hconstant : (!constant.isEmpty) = true
  · rw [if_pos hconstant] at h hplain
    rw [← Except.ok.inj h]
    cases hvalue : constant.value with
    | string s =>
      -- the only constant that is written as it is
      rw [hvalue] at hplain
      exact hplain s List.mem_cons_self
    | null | bool | number | array | object => exact Json.oneLine_compact _
  · rw [if_neg hconstant] at h hplain
    split at h
    · rw [← Except.ok.inj h]
      exact hplain name List.mem_cons_self
    · exact absurd h nofun

theorem oneLine_apply {fn : String} {operands : List MathExpr} {texts : List String}
    (hlen : texts.length = operands.length)
    (hop : ∀ s ∈ operatorParts fn operands, OneLine s) (h : ∀ t ∈ texts, OneLine t) :
    OneLine (apply fn texts) := by
  unfold operatorParts at hop
  unfold apply
  cases hstyle : styleOf fn with
  | negation => exact (by decide : OneLine "-").append (.join (by decide) h)
  | application name =>
    rw [hstyle] at hop
    have hname : OneLine (name ++ "(") := (hop _ List.mem_cons_self).append (by decide)
    exact (OneLine.join (by decide) h).within hname (by decide)
  | infixed =>
    rw [hstyle, ← hlen] at hop
    refine (OneLine.joinBetween (fun htwo => ?_) h).within (by decide) (by decide)
    exact hop fn (List.mem_replicate.2 ⟨by omega, rfl⟩)

mutual

theorem oneLine_toInfix {node text : String} :
    ∀ e : MathExpr, e.toInfix node = .ok text → (∀ s ∈ e.unquotedParts, OneLine s) →
      OneLine text
  | ⟨fn, name, constant, values, operands⟩ => by
    intro h hplain
    rw [toInfix] at h
    rw [unquotedParts] at hplain
    by_cases hfn : fn.isEmpty = true
    · rw [if_pos hfn] at h hplain
      exact oneLine_operandText h hplain
    · rw [if_neg hfn] at h hplain
      split at h
      · exact absurd h nofun
      · obtain ⟨texts, hall, rfl⟩ := exists_of_map_eq_ok h
        rw [List.forall_mem_append] at hplain
        obtain ⟨hlen, htexts⟩ := oneLine_allToInfix operands hall hplain.2
        exact oneLine_apply hlen hplain.1 htexts

theorem oneLine_allToInfix {node : String} {texts : List String} :
    ∀ es : List MathExpr, allToInfix node es = .ok texts →
      (∀ s ∈ allUnquotedParts es, OneLine s) →
        texts.length = es.length ∧ ∀ t ∈ texts, OneLine t
  | [] => by
    intro h _
    rw [allToInfix] at h
    obtain rfl := Except.ok.inj h
    exact ⟨rfl, fun t ht => absurd ht List.not_mem_nil⟩
  | e :: rest => by
    intro h hplain
    rw [allToInfix] at h
    rw [allUnquotedParts, List.forall_mem_append] at hplain
    cases he : e.toInfix node with
    | error err => rw [he] at h; exact absurd h nofun
    | ok text =>
      rw [he] at h
      obtain ⟨more, hrest, rfl⟩ := exists_of_map_eq_ok h
      obtain ⟨hlen, hmore⟩ := oneLine_allToInfix rest hrest hplain.2
      exact ⟨by rw [List.length_cons, List.length_cons, hlen],
        List.forall_mem_cons.2 ⟨oneLine_toInfix e he hplain.1, hmore⟩⟩

end

end MathExpr

/-! ## Lines -/

namespace Clause

variable {c : Clause}

/-- The unquoted strings of what a node is about, those of an expression one by one. -/
def unquotedBodyParts (c : Clause) : List String :=
  match c.call, c.math with
  | none, some e => Render.unquotedLabel c.aliasName ++ e.unquotedParts
  | _, _ => c.unquotedBody

/-- The unquoted strings of the line of a node below a root, those of an expression one by
one. -/
def unquotedChildParts (c : Clause) : List String :=
  c.variableName :: c.unquotedBodyParts ++ c.unquotedDirectives (!c.filterIsInBody)

/-- An expression is one line if its parts are. -/
theorem oneLine_unquotedBody (h : ∀ s ∈ c.unquotedBodyParts, OneLine s) :
    ∀ s ∈ c.unquotedBody, OneLine s := by
  unfold unquotedBodyParts at h
  split at h
  next e hcall hmath =>
    unfold unquotedBody
    rw [hcall, hmath]
    rw [List.forall_mem_append] at h
    refine List.forall_mem_append.2 ⟨h.1, fun s hs => ?_⟩
    cases htoInfix : e.toInfix c.label with
    | error err => rw [htoInfix] at hs; exact absurd hs List.not_mem_nil
    | ok text =>
      rw [htoInfix] at hs
      rw [List.mem_singleton.1 hs]
      exact MathExpr.oneLine_toInfix e htoInfix h.2
  next => exact h

/-- **The line of a node below a root is one line** if the strings are that it is written
with and that stand there without quotes. -/
theorem oneLine_childLine {depth : Nat} {hasChildren : Bool} {text : String}
    (h : c.childLine depth hasChildren = .ok text)
    (hplain : ∀ s ∈ c.unquotedChildParts, OneLine s) : OneLine text := by
  obtain ⟨t, ht, rfl⟩ := exists_of_map_eq_ok h
  refine (consists_childPhrase ht).oneLine_written ?_
  unfold unquotedChildParts at hplain
  rw [List.cons_append, List.forall_mem_cons, List.forall_mem_append] at hplain
  exact List.forall_mem_cons.2 ⟨hplain.1,
    List.forall_mem_append.2 ⟨oneLine_unquotedBody hplain.2.1, hplain.2.2⟩⟩

/-- **The line of a root is one line** under the same condition. -/
theorem oneLine_rootLine {depth : Nat} {hasChildren : Bool} {text : String}
    (h : c.rootLine depth hasChildren = .ok text)
    (hplain : ∀ s ∈ c.unquotedRootLine, OneLine s) : OneLine text := by
  obtain ⟨t, ht, rfl⟩ := exists_of_map_eq_ok h
  refine (consists_rootPhrase ht).oneLine_written
    (List.forall_mem_append.2 ⟨fun s hs => ?_, hplain⟩)
  unfold rootMark at hs
  split at hs
  · rw [List.mem_singleton.1 hs]
    decide
  · exact absurd hs List.not_mem_nil

end Clause

/-- **The line that opens a request is one line** under the same condition. -/
theorem Block.oneLine_header {b : Block} (h : ∀ s ∈ b.unquotedHeader, OneLine s) :
    OneLine b.header := b.consists_headerPhrase.oneLine_written h

theorem oneLine_indent (depth : Nat) : OneLine (indent depth) := fun hmem =>
  absurd (List.all_eq_true.1 (Phrase.plain_indent depth) _ hmem) (by decide)

theorem oneLine_closingLine (depth : Nat) : OneLine (closingLine depth) :=
  (consists_closingPhrase depth).oneLine_written fun _ h => absurd h List.not_mem_nil

end Dql
