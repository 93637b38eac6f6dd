import Dql.Proofs.Render.Block
import Dql.Proofs.Text.Literal

/-!
# The literals of a block are found in its text

Literal arguments of calls, and the password of a check, are quoted when a block is written. If
no string that a phrase has without quotes holds a quote or a slash, the text of the phrase has
its literals and no others (`Phrase.quotes_text`), since no word and no sign holds one either.

For a block this says that the double-quoted tokens of its text are its literals, in the order
of the document and each as it was quoted, and that reading the tokens gives the literals back,
whatever they say (`Block.quotedTokens_render`). Patterns are written between slashes, so that
no block with one meets the condition.
-/

namespace Dql

open Text

variable {isUri : String → Bool}

theorem Name.unmarked_text {n : Name} (h : Unmarked n.word) : Unmarked (n.text isUri) := by
  cases n with
  | reference name => exact h
  | ordered name kind => exact h
  | predicate place name =>
    cases place with
    | subject =>
      show Unmarked (bracketed isUri name)
      unfold bracketed
      split
      · exact Unmarked.within h (by decide) (by decide)
      · exact h
    | applied | ordering | grouping => exact h

theorem Uid.unmarked_format (u : Uid) : Unmarked u.format := by
  have hall : characters.all isUnmarked = true := by decide
  exact List.all_eq_true.2 fun c hc => List.all_eq_true.1 hall c (mem_format hc)

/-- A term has the literal that it is. -/
theorem Term.quotes_text {t : Term} (h : ∀ s ∈ t.strings, Unmarked s) :
    Quotes (t.text isUri) t.literals := by
  cases t with
  | own s => exact .unmarked (h s List.mem_cons_self)
  | literal s => exact .literal s
  | identifier uid => exact .unmarked uid.unmarked_format
  | name n => exact .unmarked (n.unmarked_text (h _ List.mem_cons_self))
  | values ns =>
    refine .unmarked ((Unmarked.join (by decide) fun t ht => ?_).within (by decide) (by decide))
    obtain ⟨n, hn, rfl⟩ := List.mem_map.1 ht
    exact n.unmarked_text (h _ (List.mem_map_of_mem hn))

theorem Piece.quotes_text {p : Piece} (h : ∀ t ∈ p.terms, ∀ s ∈ t.strings, Unmarked s) :
    Quotes (p.text isUri) (p.terms.flatMap Term.literals) := by
  cases p with
  | mark m =>
    refine .unmarked (Unmarked.iff_forall.2 fun c hc => ?_)
    have hplain := List.all_eq_true.1 m.plain c hc
    constructor
    · rintro rfl
      exact absurd hplain (by decide)
    · rintro rfl
      exact absurd hplain (by decide)
  | term t =>
    rw [terms, List.flatMap_singleton]
    exact t.quotes_text (h t List.mem_cons_self)
  | applied head arguments =>
    obtain ⟨hhead, harguments⟩ := List.forall_mem_cons.1 h
    have hname : Unmarked (head.text isUri ++ "(") :=
      (head.unmarked_text (hhead _ List.mem_cons_self)).append (by decide)
    have hall : QuotesAll (arguments.map (Term.text isUri)) (arguments.flatMap Term.literals) :=
      .map arguments fun a ha => a.quotes_text (harguments a ha)
    exact (hall.join (by decide)).within hname (by decide)
  | lineBreak => exact .unmarked (by decide : Unmarked "\n")

/-- **The text of a phrase has its literals**, if what it has without quotes is unmarked. -/
theorem Phrase.quotes_text {t : Phrase} (h : ∀ s ∈ t.strings, Unmarked s) :
    Quotes (t.text isUri) t.literals := by
  induction t with
  | nil => exact .nil
  | cons p rest ih =>
    rw [strings, allTerms, List.flatMap_cons, List.flatMap_append, List.forall_mem_append] at h
    rw [literals, allTerms, List.flatMap_cons, List.flatMap_append]
    exact (p.quotes_text fun t ht s hs => h.1 s (List.mem_flatMap.2 ⟨t, ht, hs⟩)).append (ih h.2)

namespace Block

variable {b : Block}

/-- **The literals of a block are found in its text.** If none of the strings that a block
writes without quotes holds a quote or a slash, the double-quoted tokens of its text are
the literals of the block in the order of the document, each as it was quoted, and reading
the tokens gives the literals back. -/
theorem quotedTokens_render {text : String} (h : b.render = .ok text)
    (hplain : ∀ s ∈ b.unquoted, Unmarked s) :
    quotedTokens text = b.quoted.map quote ∧ (quotedTokens text).map unquote = b.quoted := by
  obtain ⟨t, ht, rfl⟩ := exists_of_map_eq_ok h
  have hheld := holds_phrase ht
  have htext : Quotes t.written t.literals :=
    t.quotes_text fun s hs => forall_own (by decide) hplain s (hheld.own s hs)
  rw [hheld.literals] at htext
  exact htext.normalize.quotedTokens_eq

/-- A block whose literals hold blanks, quotes, backslashes, line breaks, and what would
start a pattern outside of them; beside them an argument that is no literal. -/
def awkward : Block where
  queries := [{
    clause := {
      aliasName := "me"
      call := some {
        name := "eq", attr := "name",
        arguments := [{ value := "a  \"b\" \\" }, { value := "$v", isRequestVariable := true }] }
      filter := some {
        op := "or"
        operands := [
          { call := some { name := "eq", attr := "path", arguments := [{ value := "(/a  b/" }] } },
          { op := "not", operands := [
            { call := some {
                name := "eq", attr := "note", arguments := [{ value := "one\r\ntwo\t" }] } }] }] } }
    children := [{
      clause := {
        aliasName := "ok"
        call := some {
          name := "checkpwd", attr := "secret", arguments := [{ value := "\\" }] } } }] }]

theorem quotedTokens_render_awkward :
    (∀ s ∈ awkward.unquoted, Unmarked s) ∧
      ∃ text, awkward.render = .ok text ∧
        quotedTokens text
          = ["\"a  \\\"b\\\" \\\\\"", "\"(/a  b/\"", "\"one\\r\\ntwo\\t\"", "\"\\\\\""] ∧
        (quotedTokens text).map unquote = ["a  \"b\" \\", "(/a  b/", "one\r\ntwo\t", "\\"] := by
  have hplain : ∀ s ∈ awkward.unquoted, Unmarked s := by decide
  obtain ⟨text, hrender⟩ : ∃ text, awkward.render = .ok text := ⟨_, rfl⟩
  obtain ⟨htokens, hread⟩ := quotedTokens_render hrender hplain
  have hquoted : awkward.quoted = ["a  \"b\" \\", "(/a  b/", "one\r\ntwo\t", "\\"] := rfl
  refine ⟨hplain, text, hrender, ?_, hread.trans hquoted⟩
  rw [htokens, hquoted]
  decide

end Block

end Dql
