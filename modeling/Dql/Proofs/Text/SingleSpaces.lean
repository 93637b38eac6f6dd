import Dql.Proofs.Text.Normalization

/-!
# Texts whose blanks are single spaces

Layout changes a text only where blanks stand next to each other or are no spaces. A
text without such places is therefore found again in what layout makes of the text
around it (`Respaced.keeps`), and a line of such a text behind its indentation is in
normal layout already (`isNormalLine_of_spacing`).

Whether the blanks of a text are single spaces is read off from left to right, with
the one thing that matters of what stands in front as the state: whether it ends in a
blank. So it is known of a text that is put together once it is known of its parts
(`spacing_append`).
-/

namespace Dql.Text

/-- Reads a text whose blanks are single spaces, behind a blank if `held`: whether there
is a blank at the end of it. Nothing is read if a blank is no space or follows a blank. -/
def spacing : Bool → List Char → Option Bool
  | held, [] => some held
  | held, c :: rest =>
    if isBlank c then
      if c = ' ' ∧ held = false then spacing true rest else none
    else spacing false rest

theorem spacing_cons_of_not_isBlank {c : Char} (hc : isBlank c = false) (held : Bool)
    (rest : List Char) : spacing held (c :: rest) = spacing false rest := by
  rw [spacing, if_neg (by simp [hc])]

theorem spacing_append (held : Bool) (xs ys : List Char) :
    spacing held (xs ++ ys) = (spacing held xs).bind fun h => spacing h ys := by
  induction xs generalizing held with
  | nil => rfl
  | cons c xs ih =>
    rw [List.cons_append, spacing, spacing]
    split
    · split
      · exact ih true
      · rfl
    · exact ih false

theorem spacing_append_of_eq_some {held after : Bool} {xs : List Char}
    (h : spacing held xs = some after) (ys : List Char) :
    spacing held (xs ++ ys) = spacing after ys := by
  rw [spacing_append, h, Option.bind_some]

/-- A word holds no blank at all. -/
theorem spacing_of_word {w : List Char} (hne : w ≠ []) (hw : w.any isBlank = false)
    (held : Bool) : spacing held w = some false := by
  induction w generalizing held with
  | nil => exact absurd rfl hne
  | cons c w ih =>
    rw [List.any_cons, Bool.or_eq_false_iff] at hw
    rw [spacing_cons_of_not_isBlank hw.1]
    cases w with
    | nil => rfl
    | cons d w => exact ih (by simp) hw.2 false

theorem spacing_of_no_blank {w : List Char} (hw : w.any isBlank = false) :
    spacing false w = some false := by
  by_cases hne : w = []
  · rw [hne]
    rfl
  · exact spacing_of_word hne hw false

theorem eq_space_of_spacing {held after : Bool} {cs : List Char}
    (h : spacing held cs = some after) {c : Char} (hc : c ∈ cs) (hblank : isBlank c = true) :
    c = ' ' := by
  induction cs generalizing held with
  | nil => exact absurd hc List.not_mem_nil
  | cons d cs ih =>
    rw [spacing] at h
    rcases List.mem_cons.1 hc with rfl | hc
    · rw [if_pos hblank] at h
      split at h
      next hspace => exact hspace.1
      next => exact absurd h (by simp)
    · split at h
      · split at h
        · exact ih h hc
        · exact absurd h (by simp)
      · exact ih h hc

/-- Behind a blank such a text starts with another character. -/
theorem exists_cons_of_spacing {after : Bool} {cs : List Char} (hne : cs ≠ [])
    (h : spacing true cs = some after) : ∃ c rest, cs = c :: rest ∧ isBlank c = false := by
  cases cs with
  | nil => exact absurd rfl hne
  | cons c rest =>
    refine ⟨c, rest, rfl, ?_⟩
    rw [spacing] at h
    split at h
    · rw [if_neg (by simp)] at h
      exact absurd h (by simp)
    next hc => simpa using hc

/-- What may stand behind a blank may stand anywhere. -/
theorem spacing_of_held {after : Bool} {cs : List Char} (hne : cs ≠ [])
    (h : spacing true cs = some after) (held : Bool) : spacing held cs = some after := by
  obtain ⟨c, rest, rfl, hc⟩ := exists_cons_of_spacing hne h
  rw [spacing_cons_of_not_isBlank hc] at h ⊢
  exact h

/-! ## Layout -/

namespace Respaced

/-- **A text whose blanks are single spaces stands where it stood**, if something else
than blanks follows. -/
theorem keeps {held after : Bool} {w cs ds : List Char} (hw : spacing held w = some after)
    (hcs : cs.all isBlank = false) (h : Respaced held (w ++ cs) ds) :
    ∃ es, ds = w ++ es ∧ Respaced after cs es := by
  induction w generalizing held ds with
  | nil =>
    obtain rfl := Option.some.inj hw
    exact ⟨ds, rfl, h⟩
  | cons c w ih =>
    -- the first character is kept, whatever it is
    have hstep : ∃ held' es, ds = c :: es ∧ Respaced held' (w ++ cs) es ∧
        spacing held' w = some after := by
      rw [spacing] at hw
      cases h with
      | tail hrun =>
        have hall : (c :: (w ++ cs)).all isBlank = true := List.all_eq_true.2 hrun
        rw [List.all_cons, List.all_append, hcs, Bool.and_false, Bool.and_false] at hall
        exact absurd hall (by simp)
      | char hc h =>
        rw [if_neg (by simp [hc])] at hw
        exact ⟨false, _, rfl, h, hw⟩
      | blank hc _ hspace h =>
        rw [if_pos hc] at hw
        split at hw
        next hsingle =>
          rw [hspace hsingle.1, hsingle.1]
          exact ⟨true, _, rfl, h, hw⟩
        next => exact absurd hw (by simp)
      | drop hc _ =>
        rw [if_pos hc, if_neg (by simp)] at hw
        exact absurd hw (by simp)
    obtain ⟨held', es, rfl, hes, hw'⟩ := hstep
    obtain ⟨fs, rfl, hfs⟩ := ih hw' hes
    exact ⟨fs, rfl, hfs⟩

end Respaced

/-- Squeezing leaves a line alone whose blanks are single spaces between other characters. -/
theorem squeeze_of_spacing {cs : List Char} (h : spacing true cs = some false) :
    squeeze cs = cs := by
  -- a character behind the line shows that its end is kept
  have hend : Respaced false ['.'] ['.'] := .char (by decide) (.tail (by simp))
  have hline : Respaced true (cs ++ ['.']) (squeeze cs ++ ['.']) := respaced_squeeze cs hend
  obtain ⟨es, hes, hrest⟩ := hline.keeps h (by decide)
  obtain ⟨fs, rfl, hfs⟩ := hrest.word (w := ['.']) (by simp) (by decide)
  cases hfs with
  | tail _ => exact List.append_cancel_right hes

/-- Indentation and behind it a text whose blanks are single spaces: a line in normal layout. -/
theorem isNormalLine_of_spacing {lead cs : List Char} (hlead : ∀ c ∈ lead, c = ' ')
    (hne : cs ≠ []) (h : spacing true cs = some false) : IsNormalLine (lead ++ cs) := by
  obtain ⟨c, rest, rfl, hc⟩ := exists_cons_of_spacing hne h
  have hindent : ∀ d ∈ lead, isIndent d = true := fun d hd => by rw [hlead d hd]; decide
  have hstable : normalizeLine (lead ++ c :: rest) = lead ++ c :: rest := by
    rw [normalizeLine_append hindent]
    unfold normalizeLine
    rw [List.takeWhile_cons_of_neg (not_isIndent_of_not_isBlank hc),
      List.dropWhile_cons_of_neg (not_isIndent_of_not_isBlank hc), squeeze_of_spacing h]
    rfl
  rw [← hstable]
  refine isNormalLine_normalizeLine ?_ fun hmem => ?_
  · rw [List.all_append, List.all_cons, hc, Bool.false_and, Bool.and_false]
  · rcases List.mem_append.1 hmem with hmem | hmem
    · exact absurd (hlead _ hmem) (by decide)
    · exact absurd (eq_space_of_spacing h hmem (by decide)) (by decide)

end Dql.Text
