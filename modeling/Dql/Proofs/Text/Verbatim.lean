import Dql.Proofs.Text.SingleSpaces
import Mathlib.Data.List.Forall2

/-!
# What layout keeps

Layout changes blanks and nothing else: the other characters of a text are in its normal
layout in the same order. Line by line it does less than that. A line that is written keeps
its indentation, and behind it every literal that is found there, letter for letter; only
in the gaps between the literals are the blanks reduced to single spaces (`Relaid`). What
the text is does not matter: literals may be left open, and blanks may be any.

The literals are those of the scan, and scanning a line goes on behind each of them. So
the gaps can be followed along the scan, with one thing to remember of what stands in
front: whether it ends in a blank (`exists_cutAt_squeeze`).
-/

namespace Dql.Text

/-! ## Characters other than blanks -/

theorem Respaced.filter_eq {held : Bool} {cs ds : List Char} (h : Respaced held cs ds) :
    ds.filter (fun c => !isBlank c) = cs.filter fun c => !isBlank c := by
  induction h with
  | tail hrun => rw [List.filter_nil, List.filter_eq_nil_iff.2 (by simpa using hrun)]
  | char hc _ ih => rw [List.filter_cons_of_pos (by simp [hc]), ih,
      List.filter_cons_of_pos (by simp [hc])]
  | blank hc hd _ _ ih => rw [List.filter_cons_of_neg (by simp [hd]), ih,
      List.filter_cons_of_neg (by simp [hc])]
  | drop hc _ ih => rw [ih, List.filter_cons_of_neg (by simp [hc])]

/-! ## Literals and gaps -/

/-- The characters that are copied of a token: all of a quoted literal, and of a pattern those
from its slash onwards. -/
def Token.literalText? : Token → Option (List Char)
  | quoted body => some ('"' :: body)
  | pattern _ _ body => some ('/' :: body)
  | blanks _ => none
  | char _ => none

/-- The literals that are found on a line, from left to right. -/
def literals (cs : List Char) : List (List Char) := (Token.scan cs).filterMap Token.literalText?

/-- A text is made of gaps and literals in turn: a gap, a literal, a gap, up to the last gap. -/
inductive CutAt : List (List Char) → List (List Char) → List Char → Prop where
  | last (gap : List Char) : CutAt [gap] [] gap
  | literal (gap lit : List Char) {gaps lits : List (List Char)} {cs : List Char}
      (h : CutAt gaps lits cs) : CutAt (gap :: gaps) (lit :: lits) (gap ++ (lit ++ cs))

/-- Every run of blanks is a single space. -/
def SingleSpaced (cs : List Char) : Prop :=
  ∀ run, run <:+: cs → run ≠ [] → run.all isBlank = true → run = [' ']

/-- What becomes of a line that is written. -/
structure Relaid (line out : List Char) : Prop where
  notBlank : out.all isBlank = false
  /-- Behind the indentation the literals are as they were, and the gaps hold single spaces. -/
  behindIndent : ∃ gaps rest, out = line.takeWhile isIndent ++ rest ∧
    CutAt gaps (literals (line.dropWhile isIndent)) rest ∧ (∀ g ∈ gaps, SingleSpaced g) ∧
    literals rest = literals (line.dropWhile isIndent)

theorem CutAt.behindChar (c : Char) {gap : List Char} {gaps lits : List (List Char)}
    {cs : List Char} (h : CutAt (gap :: gaps) lits cs) :
    CutAt ((c :: gap) :: gaps) lits (c :: cs) := by
  cases h with
  | last => exact .last _
  | literal _ lit h => exact .literal (c :: gap) lit h

/-- What was read as single spaces is. -/
theorem singleSpaced_of_spacing {held : Bool} {cs : List Char}
    (h : (spacing held cs).isSome = true) : SingleSpaced cs := by
  rintro run ⟨front, back, rfl⟩ hne hrun
  obtain ⟨after, hafter⟩ := Option.isSome_iff_exists.1 h
  have hspace : ∀ c ∈ run, c = ' ' := fun c hc =>
    eq_space_of_spacing hafter (by simp [hc]) (List.all_eq_true.1 hrun c hc)
  match run, hne with
  | [c], _ => rw [hspace c List.mem_cons_self]
  | c :: d :: rest, _ =>
    -- behind a blank there is no other
    rw [hspace c (by simp), hspace d (by simp), List.append_assoc, spacing_append] at hafter
    obtain ⟨held', -, hfront⟩ := Option.bind_eq_some_iff.1 hafter
    have hblank : isBlank ' ' = true := by decide
    cases held' <;> simp [spacing, hblank] at hfront

/-! ## Squeezing a line -/

theorem literals_cons (c : Char) (rest : List Char) :
    literals (c :: rest)
      = (Token.next c rest).1.literalText?.toList ++ literals (Token.next c rest).2 := by
  unfold literals
  rw [Token.scan, List.filterMap_cons]
  cases (Token.next c rest).1.literalText? <;> rfl

/-- Squeezing leaves the literals of a line as they are. -/
theorem literals_squeeze (cs : List Char) : literals (squeeze cs) = literals cs := by
  have htoken : ∀ t : Token, t.squeeze.literalText? = t.literalText? := by
    intro t
    cases t <;> rfl
  unfold literals
  rw [Token.scan_squeeze, List.filterMap_map]
  exact List.filterMap_congr fun t _ => htoken t

/-- **A squeezed line is cut at its literals into gaps of single spaces.** Behind a blank
(`held`) this is known of lines that do not start with another. -/
theorem exists_cutAt_squeeze (cs : List Char) (held : Bool)
    (hstart : held = true → ∀ c, cs.head? = some c → isBlank c = false) :
    ∃ gap gaps, CutAt (gap :: gaps) (literals cs) (squeeze cs) ∧
      (spacing held gap).isSome = true ∧ ∀ g ∈ gaps, (spacing false g).isSome = true := by
  induction cs using Token.scan.induct generalizing held with
  | case1 =>
    rw [squeeze_nil, literals, Token.scan]
    exact ⟨[], [], .last [], rfl, by simp⟩
  | case2 c rest ih =>
    have hfirst := Token.first_next c rest
    rw [squeeze_cons, literals_cons]
    generalize (Token.next c rest).1 = t at hfirst ⊢
    generalize (Token.next c rest).2 = more at hfirst ih ⊢
    -- a character that is no blank belongs to the gap, whatever stands in front
    have hchar : isBlank c = false →
        ∃ gap gaps, CutAt (gap :: gaps) (literals more) (c :: squeeze more) ∧
          (spacing held gap).isSome = true ∧ ∀ g ∈ gaps, (spacing false g).isSome = true := by
      intro hc
      obtain ⟨gap, gaps, hcut, hgap, hgaps⟩ := ih false fun h => absurd h Bool.false_ne_true
      refine ⟨c :: gap, gaps, hcut.behindChar c, ?_, hgaps⟩
      rwa [spacing_cons_of_not_isBlank hc]
    cases hfirst with
    | @quoted _ p hlit =>
      obtain ⟨gap, gaps, hcut, hgap, hgaps⟩ := ih false fun h => absurd h Bool.false_ne_true
      exact ⟨[], gap :: gaps, .literal [] ('"' :: p.1) hcut, rfl,
        List.forall_mem_cons.2 ⟨hgap, hgaps⟩⟩
    | quote => exact hchar (by decide)
    | @pattern _ hc _ _ p hslash hlit =>
      obtain ⟨gap, gaps, hcut, hgap, hgaps⟩ := ih false fun h => absurd h Bool.false_ne_true
      have hopener : isBlank c = false := by
        rcases hc with rfl | rfl <;> decide
      refine ⟨c :: (if (rest.takeWhile isBlank).isEmpty then [] else [' ']), gap :: gaps, ?_, ?_,
        List.forall_mem_cons.2 ⟨hgap, hgaps⟩⟩
      · have hnew := CutAt.literal (c :: (if (rest.takeWhile isBlank).isEmpty then [] else [' ']))
          ('/' :: p.1) hcut
        simpa [Token.squeeze, Token.text, Token.literalText?] using hnew
      · rw [spacing_cons_of_not_isBlank hopener]
        split <;> decide
    | slash hc => exact hchar (by rcases hc with rfl | rfl <;> decide)
    | opener hc => exact hchar (by rcases hc with rfl | rfl <;> decide)
    | blanks hc =>
      -- the blanks in front of a line stand behind something else
      have hheld : held = false := by
        cases held with
        | false => rfl
        | true =>
          rw [hstart rfl c rfl] at hc
          exact absurd hc (by simp)
      obtain ⟨gap, gaps, hcut, hgap, hgaps⟩ :=
        ih true fun _ _ => isBlank_of_head?_dropWhile
      refine ⟨' ' :: gap, gaps, hcut.behindChar ' ', ?_, hgaps⟩
      have hspace : isBlank ' ' = true := by decide
      rw [hheld, spacing, if_pos hspace, if_pos ⟨rfl, rfl⟩]
      exact hgap
    | char _ _ hc => exact hchar hc

/-! ## Lines and texts -/

theorem relaid_normalizeLine {line : List Char} (hblank : line.all isBlank = false)
    (hfeed : '\n' ∉ line) : Relaid line (normalizeLine line) where
  notBlank := (isNormalLine_normalizeLine hblank hfeed).notBlank
  behindIndent := by
    obtain ⟨gap, gaps, hcut, hgap, hgaps⟩ :=
      exists_cutAt_squeeze (line.dropWhile isIndent) false fun h => absurd h Bool.false_ne_true
    refine ⟨gap :: gaps, _, rfl, hcut, ?_, literals_squeeze _⟩
    exact List.forall_mem_cons.2
      ⟨singleSpaced_of_spacing hgap, fun g hg => singleSpaced_of_spacing (hgaps g hg)⟩

/-- **Layout changes nothing but blanks.** The other characters stay in their order; the lines
of the new text are those of the old that hold more than blanks, one for one, and each of them
keeps its indentation and its literals, with single spaces between these. -/
theorem normalize_relays (s : String) :
    (normalize s).toList.filter (fun c => !isBlank c) = s.toList.filter (fun c => !isBlank c) ∧
      List.Forall₂ Relaid ((lines s.toList).filter fun line => !line.all isBlank)
        (lines (normalize s).toList) := by
  unfold normalize
  rw [String.toList_ofList]
  refine ⟨(respaced_normalizeChars s.toList).filter_eq, ?_⟩
  rw [normalizeChars_eq, lines_unlines fun _ => isNormalLine_of_mem_normalLines, normalLines,
    List.forall₂_map_right_iff, List.forall₂_same]
  intro line hline
  obtain ⟨hmem, hblank⟩ := List.mem_filter.1 hline
  exact relaid_normalizeLine (by simpa using hblank) (lineFeed_not_mem_lines hmem)

end Dql.Text
