import Dql.Proofs.Text.Cut
import Dql.Proofs.Text.Literal

/-!
# Texts of one line

A text without line feeds is one line (`OneLine`), whatever it holds beside them. Joined by
line feeds and brought into normal layout, such texts are the lines again, one for one
(`lines_normalize_join`): none is split, and none is dropped unless it is blank. All that
layout does to one of them is to squeeze it behind its indentation, after the carriage
return that belongs to the line's end (`laidOut`). What it starts with stays
(`exists_laidOut_eq`).
-/

namespace Dql.Text

/-! ## Texts without line feeds -/

/-- A text of one line. -/
def OneLine (s : String) : Prop := '\n' ∉ s.toList

instance (s : String) : Decidable (OneLine s) := inferInstanceAs (Decidable (_ ∉ _))

namespace OneLine

variable {s t : String}

theorem append_iff : OneLine (s ++ t) ↔ OneLine s ∧ OneLine t := by
  unfold OneLine
  rw [String.toList_append, List.mem_append, not_or]

theorem append (hs : OneLine s) (ht : OneLine t) : OneLine (s ++ t) := append_iff.2 ⟨hs, ht⟩

/-- A text with two around it. -/
theorem within {u : String} (ht : OneLine t) (hs : OneLine s) (hu : OneLine u) :
    OneLine (s ++ t ++ u) := (hs.append ht).append hu

/-- Texts with a separator between each two of them, if there are two. -/
theorem joinBetween {sep : String} {ss : List String} (hsep : 1 < ss.length → OneLine sep)
    (h : ∀ s ∈ ss, OneLine s) : OneLine (join sep ss) := by
  induction ss with
  | nil => exact (by decide : OneLine "")
  | cons s ss ih =>
    rw [List.forall_mem_cons] at h
    cases ss with
    | nil => exact h.1
    | cons t rest =>
      have hsep := hsep (by simp)
      exact (h.1.append hsep).append (ih (fun _ => hsep) h.2)

theorem join {sep : String} (hsep : OneLine sep) {ss : List String} (h : ∀ s ∈ ss, OneLine s) :
    OneLine (join sep ss) :=
  joinBetween (fun _ => hsep) h

/-- A literal is one line whatever it says. -/
theorem quote (v : String) : OneLine (quote v) := by
  unfold OneLine
  rw [toList_quote]
  exact not_mem_quote (Or.inl rfl) v

end OneLine

/-! ## Texts that start without a blank -/

/-- A text that starts with a character which is no blank. -/
def Starts (s : String) : Prop := (s.toList.head?.any fun c => !isBlank c) = true

instance (s : String) : Decidable (Starts s) := inferInstanceAs (Decidable (_ = true))

namespace Starts

variable {s t : String}

theorem exists_cons (h : Starts s) : ∃ c rest, s.toList = c :: rest ∧ isBlank c = false := by
  unfold Starts at h
  cases hs : s.toList with
  | nil => rw [hs] at h; exact absurd h (by decide)
  | cons c rest =>
    rw [hs] at h
    exact ⟨c, rest, rfl, by simpa using h⟩

theorem append (h : Starts s) (t : String) : Starts (s ++ t) := by
  obtain ⟨c, rest, hs, hc⟩ := h.exists_cons
  unfold Starts
  rw [String.toList_append, hs]
  simpa using hc

/-- A word starts with one of its own characters. -/
theorem word (hne : ¬ s.isEmpty = true) (h : s.toList.any isBlank = false) : Starts s := by
  unfold Starts
  cases hs : s.toList with
  | nil => exact absurd (String.isEmpty_iff.2 (String.toList_eq_nil_iff.1 hs)) hne
  | cons c rest =>
    rw [hs, List.any_cons, Bool.or_eq_false_iff] at h
    simpa using h.1

/-- Behind a text that is written only if it is there. -/
theorem unlessEmpty {f : String → String} (hs : ¬ s.isEmpty = true → Starts (f s))
    (ht : Starts t) : Starts (unlessEmpty s f ++ t) := by
  unfold Text.unlessEmpty
  split
  · rwa [String.empty_append]
  next hne => exact (hs hne).append t

end Starts

/-! ## Lines that are joined -/

/-- A line without the carriage return that belongs to its end. -/
def withoutReturn (line : List Char) : List Char :=
  if line.getLast? = some '\r' then line.dropLast else line

/-- Up to its line feed a text without others is one line. -/
theorem lines_append_lineFeed_eq {line : List Char} (hfeed : '\n' ∉ line) (rest : List Char) :
    lines (line ++ '\n' :: rest) = withoutReturn line :: lines rest := by
  unfold withoutReturn
  split
  next hlast =>
    obtain ⟨front, rfl⟩ := List.getLast?_eq_some_iff.1 hlast
    rw [List.mem_append, not_or] at hfeed
    rw [List.dropLast_concat]
    clear hlast
    -- the return and the line feed behind it end the line together
    induction front with
    | nil => rfl
    | cons c front ih =>
      rw [List.mem_cons, not_or] at hfeed
      have hmore := ih ⟨hfeed.1.2, hfeed.2⟩
      rw [List.append_assoc] at hmore ⊢
      rw [List.cons_append, lines_cons (Ne.symm hfeed.1.1), hmore]
      rintro rfl hhead
      cases front with
      | nil =>
        have hreturn : '\r' = '\n' := Option.some.inj hhead
        exact absurd hreturn (by decide)
      | cons d front =>
        obtain rfl := Option.some.inj hhead
        exact hfeed.1.2 List.mem_cons_self
  next hlast => exact lines_append_lineFeed hfeed hlast rest

/-- Texts without line feeds are the lines of the text that they make up; the last is one
that loses nothing to the end of the text. -/
theorem lines_unlines_concat {ls : List (List Char)} (hfeed : ∀ l ∈ ls, '\n' ∉ l)
    {last : List Char} (hne : last ≠ []) (hlast : '\n' ∉ last) :
    lines (unlines (ls ++ [last])) = ls.map withoutReturn ++ [last] := by
  induction ls with
  | nil => exact lines_of_not_mem hne hlast
  | cons l ls ih =>
    rw [List.forall_mem_cons] at hfeed
    rw [List.cons_append, unlines_cons (by simp), lines_append_lineFeed_eq hfeed.1, ih hfeed.2]
    rfl

/-! ## Layout -/

/-- What layout makes of a line. -/
def laidOut (line : List Char) : List Char := normalizeLine (withoutReturn line)

theorem laidOut_of_isNormalLine {line : List Char} (h : IsNormalLine line) :
    laidOut line = line := by
  unfold laidOut withoutReturn
  rw [if_neg h.noReturn, h.stable]

section Start

variable {c : Char}

theorem withoutReturn_append (lead : List Char) (hc : isBlank c = false) (rest : List Char) :
    ∃ more, withoutReturn (lead ++ c :: rest) = lead ++ c :: more := by
  unfold withoutReturn
  split
  next hlast =>
    cases rest with
    | nil =>
      -- the return is no start of a line
      rw [List.getLast?_concat] at hlast
      obtain rfl := Option.some.inj hlast
      exact absurd hc (by decide)
    | cons d rest =>
      exact ⟨(d :: rest).dropLast, List.dropLast_append_of_ne_nil (List.cons_ne_nil c _)⟩
  next => exact ⟨rest, rfl⟩

/-- **A line keeps its indentation and the character behind it.** -/
theorem exists_laidOut_eq {lead : List Char} (hlead : ∀ d ∈ lead, d = ' ')
    (hc : isBlank c = false) (rest : List Char) :
    ∃ more, laidOut (lead ++ c :: rest) = lead ++ c :: more := by
  obtain ⟨kept, hkept⟩ := withoutReturn_append lead hc rest
  obtain ⟨more, hmore⟩ := exists_squeeze_cons hc kept
  refine ⟨more, ?_⟩
  unfold laidOut
  rw [hkept, normalizeLine_append fun d hd => by rw [hlead d hd]; decide]
  unfold normalizeLine
  rw [List.takeWhile_cons_of_neg (not_isIndent_of_not_isBlank hc),
    List.dropWhile_cons_of_neg (not_isIndent_of_not_isBlank hc), hmore, List.nil_append]

end Start

theorem all_isBlank_withoutReturn {line : List Char} (h : line.all isBlank = false) :
    (withoutReturn line).all isBlank = false := by
  unfold withoutReturn
  split
  next hlast =>
    obtain ⟨front, rfl⟩ := List.getLast?_eq_some_iff.1 hlast
    rw [List.dropLast_concat]
    rwa [List.all_append, List.all_cons, List.all_nil, Bool.and_true,
      (by decide : isBlank '\r' = true), Bool.and_true] at h
  next => exact h

/-- **Texts of one line that are no blanks are the lines of what layout makes of the text
they are joined to**, each laid out. The last does not end in a carriage return. -/
theorem lines_normalize_join {ls : List String} {last : String}
    (hls : ∀ l ∈ ls ++ [last], OneLine l ∧ l.toList.all isBlank = false)
    (hreturn : last.toList.getLast? ≠ some '\r') :
    lines (normalize (join "\n" (ls ++ [last]))).toList
      = (ls ++ [last]).map fun l => laidOut l.toList := by
  obtain ⟨hfront, hlast⟩ := List.forall_mem_append.1 hls
  have hlast : OneLine last ∧ last.toList.all isBlank = false := hlast last List.mem_cons_self
  have hkeptLast : withoutReturn last.toList = last.toList := if_neg hreturn
  have hne : last.toList ≠ [] := fun hnil => by
    rw [hnil] at hlast
    exact absurd hlast.2 (by decide)
  -- the lines of the joined text are the texts, each without its return
  have hjoined : lines (join "\n" (ls ++ [last])).toList
      = (ls ++ [last]).map fun l => withoutReturn l.toList := by
    rw [toList_join_lineFeed, List.map_append, List.map_singleton,
      lines_unlines_concat (fun l hl => ?_) hne hlast.1, List.map_map, List.map_append,
      List.map_singleton, hkeptLast]
    · rfl
    · obtain ⟨s, hs, rfl⟩ := List.mem_map.1 hl
      exact (hfront s hs).1
  have hall : ∀ line ∈ lines (join "\n" (ls ++ [last])).toList, (!line.all isBlank) = true := by
    intro line hline
    rw [hjoined] at hline
    obtain ⟨l, hl, rfl⟩ := List.mem_map.1 hline
    rw [all_isBlank_withoutReturn (hls l hl).2]
    rfl
  have hnormal : normalLines (join "\n" (ls ++ [last])).toList
      = (ls ++ [last]).map fun l => laidOut l.toList := by
    unfold normalLines
    rw [List.filter_eq_self.2 hall, hjoined, List.map_map]
    rfl
  unfold normalize
  rw [String.toList_ofList, normalizeChars_eq,
    lines_unlines fun _ => isNormalLine_of_mem_normalLines, hnormal]

end Dql.Text
