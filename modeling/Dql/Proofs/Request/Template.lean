import Dql.Proofs.Parsed.Sameness
import Dql.Proofs.Request.Calls

/-!
# When a block is accepted as a template

A block is accepted if the parser reads its text back as the block itself. The library
compares the two as queries: what the parser answers is turned into queries, and the
block loses its fallbacks. `Block.accepted_iff_parsed_as_written` says what this comes to in
the parser's own terms: the answer, its kinds settled, is what the parser would report for
the block (`Query.allToParsed`), equal in every field of every node. Numbers count as
they do everywhere in JSON, a zero being the same whatever its sign. That the two ways of
comparing agree is `allSame_stripAll_iff`; the rest is about fallbacks.

Fallbacks play no part at all: neither the text of a block nor the comparison looks at
them (`Block.template_congr`).
-/

namespace Dql

/-! ## Fallbacks -/

namespace Query

mutual

theorem declared_stripFallbacks : ∀ q : Query, Scope.ofQuery q.stripFallbacks = Scope.ofQuery q
  | ⟨clause, fallback, children⟩ => by
    rw [stripFallbacks, Scope.ofQuery, Scope.ofQuery, declared_stripAll children]

theorem declared_stripAll : ∀ qs : List Query,
    Scope.declared (stripAll qs) = Scope.declared qs
  | [] => rfl
  | q :: rest => by
    rw [stripAll, Scope.declared, Scope.declared, declared_stripFallbacks q,
      declared_stripAll rest]

end

mutual

theorem references_stripFallbacks : ∀ q : Query,
    Scope.referencesOf q.stripFallbacks = Scope.referencesOf q
  | ⟨clause, fallback, children⟩ => by
    rw [stripFallbacks, Scope.referencesOf, Scope.referencesOf, references_stripAll children]

theorem references_stripAll : ∀ qs : List Query,
    Scope.references (stripAll qs) = Scope.references qs
  | [] => rfl
  | q :: rest => by
    rw [stripAll, Scope.references, Scope.references, references_stripFallbacks q,
      references_stripAll rest]

end

theorem check_stripAll (qs : List Query) : Scope.check (stripAll qs) = Scope.check qs := by
  unfold Scope.check Scope.checkIn
  rw [references_stripAll, declared_stripAll]

theorem isEmpty_stripAll (qs : List Query) : (stripAll qs).isEmpty = qs.isEmpty := by
  cases qs <;> rfl

mutual

/-- The lines of a node do not show its fallback, nor those below it. -/
theorem childPhrases_stripFallbacks (depth : Nat) : ∀ q : Query,
    q.stripFallbacks.childPhrases depth = q.childPhrases depth
  | ⟨clause, fallback, children⟩ => by
    rw [stripFallbacks, childPhrases, childPhrases, isEmpty_stripAll,
      allChildPhrases_stripAll (depth + 1) children]

theorem allChildPhrases_stripAll (depth : Nat) : ∀ qs : List Query,
    allChildPhrases depth (stripAll qs) = allChildPhrases depth qs
  | [] => rfl
  | q :: rest => by
    rw [stripAll, allChildPhrases, allChildPhrases, childPhrases_stripFallbacks depth q,
      allChildPhrases_stripAll depth rest]

end

theorem rootPhrases_stripFallbacks (depth : Nat) : ∀ q : Query,
    q.stripFallbacks.rootPhrases depth = q.rootPhrases depth
  | ⟨clause, fallback, children⟩ => by
    unfold rootPhrases
    rw [stripFallbacks]
    dsimp only
    rw [isEmpty_stripAll, allChildPhrases_stripAll]

theorem allRootPhrases_stripAll (depth : Nat) (qs : List Query) :
    allRootPhrases depth (stripAll qs) = allRootPhrases depth qs := by
  induction qs with
  | nil => rfl
  | cons q rest ih =>
    rw [stripAll, allRootPhrases, allRootPhrases, rootPhrases_stripFallbacks, ih]

end Query

namespace Block

/-- The block without fallbacks. -/
def stripFallbacks (b : Block) : Block := { b with queries := Query.stripAll b.queries }

/-- The text of a block does not show its fallbacks. -/
theorem render_stripFallbacks (b : Block) : b.stripFallbacks.render = b.render := by
  unfold render renderUnder phrase phrases stripFallbacks
  dsimp only
  rw [Query.check_stripAll, Query.allRootPhrases_stripAll]
  rfl

/-- Stripping twice is stripping once. -/
theorem checkReadBack_stripFallbacks (b : Block) (text : String) (parsed : List Query) :
    b.stripFallbacks.checkReadBack text parsed = b.checkReadBack text parsed := by
  have htwice : Query.stripAll (Query.stripAll b.queries) = Query.stripAll b.queries := by
    rw [← Query.toQueries_allToParsed, Query.allToParsed_stripAll, Query.toQueries_allToParsed]
  unfold checkReadBack stripFallbacks
  dsimp only
  rw [htwice]

section Template

variable (parser : Parser) (past : Log) (b : Block)

theorem template_stripFallbacks :
    b.stripFallbacks.template parser past = b.template parser past := by
  unfold template
  rw [render_stripFallbacks]
  simp only [checkReadBack_stripFallbacks]
  rfl

variable {b}

/-- Blocks that differ in their fallbacks only are treated alike. -/
theorem template_congr {b' : Block} (h : b'.stripFallbacks = b.stripFallbacks) :
    b'.template parser past = b.template parser past := by
  rw [← template_stripFallbacks, h, template_stripFallbacks]

/-! ## The verdict -/

variable (b)

theorem template_outcome_eq_ok_iff_readsBack (text : String) :
    (b.template parser past).outcome = .ok text ↔ b.ReadsBack parser past text := by
  constructor
  · intro h
    by_cases hread : ∃ t, b.ReadsBack parser past t
    · obtain ⟨t, ht⟩ := hread
      rw [template_of_readsBack ht] at h
      obtain rfl := Except.ok.inj h
      exact ht
    · obtain ⟨e, l, htemplate, -⟩ :=
        template_of_not_readsBack fun t ht => hread ⟨t, ht⟩
      rw [htemplate] at h
      exact absurd h (by simp)
  · intro h
    rw [template_of_readsBack h]

/-- A block that has text is shown to the parser once. -/
theorem template_log_of_render {text : String} (h : b.render = .ok text) :
    (b.template parser past).log = past.add (.parse (b.inquiry text)) := by
  unfold template
  rw [h]
  dsimp only
  split <;> rfl

/-- A block without text is not shown to the parser. -/
theorem template_of_render_error {e : RenderError} (h : b.render = .error e) :
    b.template parser past = ⟨.error (.render e), past⟩ := by
  unfold template
  rw [h]

/-- A parser that reports for a block what it is gives no reason to refuse it. -/
theorem template_outcome_of_faithful
    (h : ∀ text, parser past (b.inquiry text) = .ok (Query.allToParsed b.queries)) :
    (b.template parser past).outcome = b.render.mapError .render := by
  cases hrender : b.render with
  | error e =>
    rw [template_of_render_error parser past b hrender]
    rfl
  | ok text =>
    have hsettled : (Query.allToParsed b.queries).map (ParsedQuery.withKinds VariableKind.settle)
        = Query.allToParsed b.queries := by
      rw [← ParsedQuery.allWithKinds_eq_map, ← ParsedQuery.allToParsed_toQueries,
        Query.toQueries_allToParsed, Query.allToParsed_stripAll]
    refine (template_outcome_eq_ok_iff_readsBack parser past b text).2 ⟨hrender, _, h text, ?_⟩
    rw [allSame_stripAll_iff, hsettled]

/-- **A block is accepted exactly if it is parsed as it was written.** The parser is shown
the block's text once, each variable standing for itself, and the block is accepted if the
answer, its kinds settled, equals what the parser would report for the block: in every
field of every node, the signs of zeros aside. A block without text is refused before the
parser is asked; fallbacks change nothing; and a parser that reports what the block is
accepts every block that has text. -/
theorem accepted_iff_parsed_as_written :
    (∀ text, (b.template parser past).outcome = .ok text ↔
      b.render = .ok text ∧
        ∃ ps, parser past ⟨text, b.variableTypes.map fun name _ => name⟩ = .ok ps ∧
          ParsedQuery.unsignAllZeros (ps.map (ParsedQuery.withKinds VariableKind.settle))
            = ParsedQuery.unsignAllZeros (Query.allToParsed b.queries)) ∧
    (∀ text, b.render = .ok text →
      (b.template parser past).log
        = past.add (.parse ⟨text, b.variableTypes.map fun name _ => name⟩)) ∧
    (∀ e, b.render = .error e → b.template parser past = ⟨.error (.render e), past⟩) ∧
    (∀ b' : Block, b'.stripFallbacks = b.stripFallbacks →
      b'.template parser past = b.template parser past) ∧
    ((∀ text, parser past ⟨text, b.variableTypes.map fun name _ => name⟩
        = .ok (Query.allToParsed b.queries)) →
      (b.template parser past).outcome = b.render.mapError .render) := by
  refine ⟨fun text => ?_, fun _ => template_log_of_render parser past b,
    fun _ => template_of_render_error parser past b, fun _ => template_congr parser past,
    template_outcome_of_faithful parser past b⟩
  rw [template_outcome_eq_ok_iff_readsBack]
  unfold ReadsBack
  simp only [allSame_stripAll_iff]
  rfl

end Template

end Block

end Dql
