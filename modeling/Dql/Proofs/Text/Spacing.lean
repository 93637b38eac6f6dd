import Dql.Proofs.Text.Blank
import Dql.Text.Layout

/-!
# Normal layout changes blanks only

What `normalize` does to a text is a relation that speaks of single characters:
`Respaced held cs ds` says that `ds` is `cs` with some blanks dropped and others
replaced by blanks, while every other character stands where it stood. `held` says
that the character in front is a blank that was kept; only behind such a one, and
at the two ends of a text, may blanks be dropped. A space is never replaced, so a
space between two words is still that space (`Respaced.space`).

`respaced_normalizeChars` puts every text in this relation to its normal layout, with
no assumption on quotes, patterns or line ends. What can be shown along the relation
therefore holds of layout.
-/

namespace Dql.Text

/-- The second text is the first with blanks dropped or replaced by blanks: dropped
only at the ends and behind a blank that was kept (`held`), and a space never replaced. -/
inductive Respaced : Bool → List Char → List Char → Prop where
  /-- Blanks at the end may be dropped. -/
  | tail {held : Bool} {run : List Char} (hrun : ∀ c ∈ run, isBlank c = true) :
      Respaced held run []
  /-- Other characters are kept. -/
  | char {held : Bool} {c : Char} {cs ds : List Char} (hc : isBlank c = false)
      (h : Respaced false cs ds) : Respaced held (c :: cs) (c :: ds)
  /-- A blank is kept, or another put in its place. -/
  | blank {held : Bool} {c d : Char} {cs ds : List Char} (hc : isBlank c = true)
      (hd : isBlank d = true) (hspace : c = ' ' → d = ' ') (h : Respaced true cs ds) :
      Respaced held (c :: cs) (d :: ds)
  /-- Behind a blank that was kept, another may be dropped. -/
  | drop {c : Char} {cs ds : List Char} (hc : isBlank c = true) (h : Respaced true cs ds) :
      Respaced true (c :: cs) ds

namespace Respaced

theorem isBlank_space : isBlank ' ' = true := by decide

/-- Behind a blank more is allowed than elsewhere. -/
theorem held_of_any {held : Bool} {cs ds : List Char} (h : Respaced held cs ds) :
    Respaced true cs ds := by
  cases h with
  | tail hrun => exact .tail hrun
  | char hc h => exact .char hc h
  | blank hc hd hspace h => exact .blank hc hd hspace h
  | drop hc h => exact .drop hc h

theorem any_of_false {held : Bool} {cs ds : List Char} (h : Respaced false cs ds) :
    Respaced held cs ds := by
  cases held with
  | false => exact h
  | true => exact h.held_of_any

/-- Characters in front may be kept, whatever they are. -/
theorem keep (xs : List Char) {cs ds : List Char} (h : Respaced false cs ds) {held : Bool} :
    Respaced held (xs ++ cs) (xs ++ ds) := by
  induction xs generalizing held with
  | nil => exact h.any_of_false
  | cons x xs ih =>
    cases hx : isBlank x with
    | false => exact .char hx ih
    | true => exact .blank hx hx id ih

/-- Blanks in front may be dropped behind a blank. -/
theorem dropRun {run : List Char} (hrun : ∀ c ∈ run, isBlank c = true) {cs ds : List Char}
    (h : Respaced true cs ds) : Respaced true (run ++ cs) ds := by
  induction run with
  | nil => exact h
  | cons c run ih =>
    rw [List.forall_mem_cons] at hrun
    exact .drop hrun.1 (ih hrun.2)

/-- A run of blanks in front may become one space. -/
theorem squeezeRun {run : List Char} (hne : run ≠ []) (hrun : ∀ c ∈ run, isBlank c = true)
    {cs ds : List Char} (h : Respaced true cs ds) {held : Bool} :
    Respaced held (run ++ cs) (' ' :: ds) := by
  cases run with
  | nil => exact absurd rfl hne
  | cons c run =>
    rw [List.forall_mem_cons] at hrun
    exact .blank hrun.1 isBlank_space (fun _ => rfl) (dropRun hrun.2 h)

/-- A line feed may stand for any blank but a space. -/
theorem lineFeed {c : Char} (hc : isBlank c = true) (hne : c ≠ ' ') {cs ds : List Char}
    (h : Respaced true cs ds) : Respaced false (c :: cs) ('\n' :: ds) :=
  .blank hc (by decide) (fun he => absurd he hne) h

/-! ## What is found in the new text -/

/-- A word stands where it stood. -/
theorem word {w : List Char} (hne : w ≠ []) (hw : w.any isBlank = false) {held : Bool}
    {cs ds : List Char} (h : Respaced held (w ++ cs) ds) :
    ∃ es, ds = w ++ es ∧ Respaced false cs es := by
  induction w generalizing held ds with
  | nil => exact absurd rfl hne
  | cons c w ih =>
    rw [List.any_cons, Bool.or_eq_false_iff] at hw
    rw [List.cons_append] at h
    -- a character that is no blank can only have been kept
    have hstep : ∃ es, ds = c :: es ∧ Respaced false (w ++ cs) es := by
      cases h with
      | tail hrun =>
        have := hrun c (by simp)
        rw [hw.1] at this
        simp at this
      | char _ h => exact ⟨_, rfl, h⟩
      | blank hc _ _ _ =>
        rw [hw.1] at hc
        simp at hc
      | drop hc _ =>
        rw [hw.1] at hc
        simp at hc
    obtain ⟨es, rfl, hes⟩ := hstep
    by_cases hnil : w = []
    · subst hnil
      exact ⟨es, rfl, hes⟩
    · obtain ⟨fs, rfl, hfs⟩ := ih hnil hw.2 hes
      exact ⟨fs, rfl, hfs⟩

/-- A space behind a word and in front of one is still a space. -/
theorem space {c : Char} (hc : isBlank c = false) {cs ds : List Char}
    (h : Respaced false (' ' :: c :: cs) ds) :
    ∃ es, ds = ' ' :: es ∧ Respaced true (c :: cs) es := by
  cases h with
  | tail hrun =>
    have := hrun c (by simp)
    rw [hc] at this
    simp at this
  | char hb _ =>
    rw [isBlank_space] at hb
    simp at hb
  | blank _ _ hspace h =>
    rw [hspace rfl]
    exact ⟨_, rfl, h⟩

/-- A text without blanks opens the one text exactly if it opens the other. -/
theorem prefix_iff {w : List Char} (hw : w.any isBlank = false) {cs ds : List Char}
    (h : Respaced false cs ds) : w <+: cs ↔ w <+: ds := by
  induction w generalizing cs ds with
  | nil => simp
  | cons x w ih =>
    rw [List.any_cons, Bool.or_eq_false_iff] at hw
    cases h with
    | tail hrun =>
      refine iff_of_false (fun hp => ?_) (by simp)
      have := hrun x (hp.subset List.mem_cons_self)
      rw [hw.1] at this
      simp at this
    | char hc h => rw [List.cons_prefix_cons, List.cons_prefix_cons, ih hw.2 h]
    | blank hc hd _ _ =>
      rw [List.cons_prefix_cons, List.cons_prefix_cons]
      refine iff_of_false (fun hp => ?_) (fun hp => ?_)
      · rw [← hp.1, hw.1] at hc
        simp at hc
      · rw [← hp.1, hw.1] at hd
        simp at hd

end Respaced

/-! ## Squeezing a line -/

namespace Token

/-- The blanks of a token are blanks: a run, and the gap in front of a pattern. -/
def BlankInside : Token → Prop
  | pattern _ gap _ => ∀ c ∈ gap, isBlank c = true
  | blanks run => run ≠ [] ∧ ∀ c ∈ run, isBlank c = true
  | _ => True

theorem blankInside_next (c : Char) (rest : List Char) : (next c rest).1.BlankInside := by
  unfold next
  split
  · split <;> trivial
  · split
    · split
      · split
        · exact fun _ => isBlank_of_mem_takeWhile
        · trivial
      · trivial
    · split
      next hc =>
        refine ⟨by simp, List.forall_mem_cons.2 ⟨hc, fun _ => isBlank_of_mem_takeWhile⟩⟩
      next => trivial

/-- Squeezing a token respaces it. -/
theorem respaced_squeeze {t : Token} (ht : t.BlankInside) {cs ds : List Char}
    (h : Respaced false cs ds) {held : Bool} :
    Respaced held (t.text ++ cs) (t.squeeze.text ++ ds) := by
  cases t with
  | quoted body => exact Respaced.keep _ h
  | char c => exact Respaced.keep _ h
  | blanks run => exact Respaced.squeezeRun ht.1 ht.2 h.held_of_any
  | pattern opener gap body =>
    -- the gap becomes one space, but only if there is one
    have hbody : ∀ {held : Bool}, Respaced held ('/' :: body ++ cs) ('/' :: body ++ ds) :=
      fun {_} => Respaced.keep ('/' :: body) h
    by_cases hgap : gap = []
    · subst hgap
      exact Respaced.keep [opener] hbody
    · have hsqueeze : (squeeze (pattern opener gap body)).text ++ ds
          = [opener] ++ (' ' :: ('/' :: body ++ ds)) := by
        simp [squeeze, text, hgap]
      have htext : (pattern opener gap body).text ++ cs
          = [opener] ++ (gap ++ ('/' :: body ++ cs)) := by
        simp [text]
      rw [hsqueeze, htext]
      exact Respaced.keep [opener] (Respaced.squeezeRun hgap ht hbody)

end Token

theorem squeeze_cons (c : Char) (rest : List Char) :
    squeeze (c :: rest)
      = (Token.next c rest).1.squeeze.text ++ squeeze (Token.next c rest).2 := by
  unfold squeeze
  rw [Token.scan, List.flatMap_cons]

/-- Squeezing a line respaces it, whatever follows. -/
theorem respaced_squeeze (line : List Char) {cs ds : List Char} (h : Respaced false cs ds)
    {held : Bool} : Respaced held (line ++ cs) (squeeze line ++ ds) := by
  induction line using Token.scan.induct generalizing held with
  | case1 =>
    have hnil : squeeze [] = [] := by
      unfold squeeze
      rw [Token.scan]
      rfl
    rw [hnil]
    exact h.any_of_false
  | case2 c rest ih =>
    rw [squeeze_cons, List.append_assoc]
    conv => arg 2; rw [← Token.next_append c rest, List.append_assoc]
    exact Token.respaced_squeeze (Token.blankInside_next c rest) ih

theorem respaced_normalizeLine (line : List Char) {cs ds : List Char}
    (h : Respaced false cs ds) {held : Bool} :
    Respaced held (line ++ cs) (normalizeLine line ++ ds) := by
  unfold normalizeLine
  conv => arg 2; rw [← List.takeWhile_append_dropWhile (p := isIndent) (l := line)]
  rw [List.append_assoc, List.append_assoc]
  exact Respaced.keep _ (respaced_squeeze _ h)

/-! ## The lines of a text -/

/-- What ends a line: a line feed, with a carriage return in front or not, or the end. -/
def IsLineEnd (ending rest : List Char) : Prop :=
  ending = ['\n'] ∨ ending = ['\r', '\n'] ∨ (ending = [] ∧ rest = [])

theorem lines_eq_nil {cs : List Char} (h : lines cs = []) : cs = [] := by
  fun_induction lines cs with
  | case1 => rfl
  | case2 => simp at h
  | case3 => simp at h
  | case4 => simp at h
  | case5 => simp at h

/-- A text that is not empty is a line, its end, and the lines that follow. -/
theorem exists_lines_eq_cons {cs : List Char} (hne : cs ≠ []) :
    ∃ line ending rest, cs = line ++ (ending ++ rest) ∧ IsLineEnd ending rest ∧
      lines cs = line :: lines rest := by
  fun_induction lines cs with
  | case1 => exact absurd rfl hne
  | case2 rest => exact ⟨[], ['\r', '\n'], rest, rfl, Or.inr (Or.inl rfl), rfl⟩
  | case3 rest => exact ⟨[], ['\n'], rest, rfl, Or.inl rfl, rfl⟩
  | case4 c rest _ _ hrest =>
    obtain rfl := lines_eq_nil hrest
    exact ⟨[c], [], [], rfl, Or.inr (Or.inr ⟨rfl, rfl⟩), rfl⟩
  | case5 c rest _ _ first more hrest ih =>
    have hne' : rest ≠ [] := by
      rintro rfl
      simp [lines] at hrest
    obtain ⟨line, ending, rest', hcs, hend, hlines⟩ := ih hne'
    rw [hrest] at hlines
    obtain ⟨rfl, rfl⟩ := List.cons.inj hlines
    exact ⟨c :: first, ending, rest', by rw [hcs]; rfl, hend, rfl⟩

/-- What holds of the empty text, and of a text if it holds of what follows its first
line, holds of every text. -/
theorem lines_induction {P : List Char → Prop} (nil : P [])
    (cons : ∀ line ending rest, IsLineEnd ending rest →
      lines (line ++ (ending ++ rest)) = line :: lines rest → P rest →
      P (line ++ (ending ++ rest))) (cs : List Char) : P cs := by
  induction hn : cs.length using Nat.strongRecOn generalizing cs with
  | _ n ih =>
    by_cases hne : cs = []
    · subst hne
      exact nil
    · obtain ⟨line, ending, rest, rfl, hend, hlines⟩ := exists_lines_eq_cons hne
      refine cons line ending rest hend hlines (ih rest.length ?_ rest rfl)
      -- the line may be empty and so may its end, but not both
      rw [← hn, List.length_append, List.length_append]
      rcases hend with rfl | rfl | ⟨rfl, rfl⟩
      · simp only [List.length_cons, List.length_nil]
        omega
      · simp only [List.length_cons, List.length_nil]
        omega
      · have : line.length ≠ 0 := fun h0 => hne (by simp [List.eq_nil_of_length_eq_zero h0])
        simp only [List.length_nil]
        omega

theorem IsLineEnd.isBlank {ending rest : List Char} (h : IsLineEnd ending rest) :
    ∀ c ∈ ending, isBlank c = true := by
  refine List.all_eq_true.1 ?_
  rcases h with rfl | rfl | ⟨rfl, -⟩
  · decide
  · decide
  · rfl

/-- The lines of a text that hold more than blanks, in normal layout. -/
def normalLines (cs : List Char) : List (List Char) :=
  ((lines cs).filter fun line => !line.all isBlank).map normalizeLine

theorem normalizeChars_eq (cs : List Char) : normalizeChars cs = unlines (normalLines cs) := rfl

theorem normalLines_of_blank {line cs rest : List Char} (hlines : lines cs = line :: lines rest)
    (h : line.all isBlank = true) : normalLines cs = normalLines rest := by
  unfold normalLines
  rw [hlines, List.filter_cons_of_neg (by simp [h])]

theorem normalLines_of_not_blank {line cs rest : List Char}
    (hlines : lines cs = line :: lines rest) (h : line.all isBlank = false) :
    normalLines cs = normalizeLine line :: normalLines rest := by
  unfold normalLines
  rw [hlines, List.filter_cons_of_pos (by simp [h]), List.map_cons]

/-- A text without such lines is blank. -/
theorem isBlank_of_normalLines_eq_nil (cs : List Char) (h : normalLines cs = []) :
    ∀ c ∈ cs, isBlank c = true := by
  induction cs using lines_induction with
  | nil => simp
  | cons line ending rest hend hlines ih =>
    cases hblank : line.all isBlank with
    | false =>
      rw [normalLines_of_not_blank hlines hblank] at h
      simp at h
    | true =>
      rw [normalLines_of_blank hlines hblank] at h
      rw [List.forall_mem_append, List.forall_mem_append]
      exact ⟨List.all_eq_true.1 hblank, hend.isBlank, ih h⟩

theorem unlines_cons {line : List Char} {more : List (List Char)} (h : more ≠ []) :
    unlines (line :: more) = line ++ '\n' :: unlines more := by
  cases more with
  | nil => exact absurd rfl h
  | cons next rest => rfl

/-- **Normal layout changes blanks only**: every text is respaced by it. -/
theorem respaced_normalizeChars (cs : List Char) : Respaced true cs (normalizeChars cs) := by
  rw [normalizeChars_eq]
  induction cs using lines_induction with
  | nil => exact .tail (by simp)
  | cons line ending rest hend hlines ih =>
    cases hblank : line.all isBlank with
    | true =>
      rw [normalLines_of_blank hlines hblank]
      exact .dropRun (List.all_eq_true.1 hblank) (.dropRun hend.isBlank ih)
    | false =>
      rw [normalLines_of_not_blank hlines hblank]
      by_cases hmore : normalLines rest = []
      · -- nothing but blanks follows, and nothing of it is written
        have hrest : ∀ c ∈ ending ++ rest, isBlank c = true := by
          rw [List.forall_mem_append]
          exact ⟨hend.isBlank, isBlank_of_normalLines_eq_nil rest hmore⟩
        rw [hmore]
        have hline : Respaced true (line ++ (ending ++ rest)) (normalizeLine line ++ []) :=
          respaced_normalizeLine line (.tail hrest)
        rwa [List.append_nil] at hline
      · rw [unlines_cons hmore]
        refine respaced_normalizeLine line ?_
        -- the line feed stands for the first character of the line's end
        rcases hend with rfl | rfl | ⟨rfl, rfl⟩
        · exact .lineFeed (by decide) (by decide) ih
        · exact .lineFeed (by decide) (by decide) (.drop (by decide) ih)
        · exact absurd (by simp [normalLines, lines]) hmore

end Dql.Text
