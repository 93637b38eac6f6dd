import Dql.Text.Blank

/-!
# Blanks at the ends of a text

What `trimBlank` leaves of a text is said without its steps: a text is trimmed if there is
something else than a blank at either end of it, and blanks alone were put aside in front
of it and behind it (`IsTrimmed`). Every text has one such part (`isTrimmed_iff`).
-/

namespace Dql.Text

theorem isBlank_of_mem_takeWhile {cs : List Char} {c : Char} (h : c ∈ cs.takeWhile isBlank) :
    isBlank c = true := List.all_eq_true.1 List.all_takeWhile _ h

theorem isBlank_of_head?_dropWhile {cs : List Char} {c : Char}
    (h : (cs.dropWhile isBlank).head? = some c) : isBlank c = false := by
  have hnot := List.head?_dropWhile_not isBlank cs
  rw [h] at hnot
  simpa using hnot

/-- `core` is `cs` without the blanks at its two ends. -/
structure IsTrimmed (cs core : List Char) : Prop where
  around : ∃ front back, cs = front ++ (core ++ back) ∧
    (∀ c ∈ front, isBlank c = true) ∧ ∀ c ∈ back, isBlank c = true
  first : ∀ c, core.head? = some c → isBlank c = false
  last : ∀ c, core.getLast? = some c → isBlank c = false

/-- Blanks in front of a text that starts with none are dropped, and nothing else. -/
theorem dropWhile_append_of_head {front cs : List Char} (hfront : ∀ c ∈ front, isBlank c = true)
    (hhead : ∀ c, cs.head? = some c → isBlank c = false) :
    (front ++ cs).dropWhile isBlank = cs := by
  rw [List.dropWhile_append_of_pos hfront]
  cases cs with
  | nil => rfl
  | cons c rest => exact List.dropWhile_cons_of_neg (by simp [hhead c rfl])

theorem trimBlank_of_isTrimmed {cs core : List Char} (h : IsTrimmed cs core) :
    trimBlank cs = core := by
  obtain ⟨front, back, rfl, hfront, hback⟩ := h.around
  have hback' : ∀ c ∈ back.reverse, isBlank c = true := fun c hc => hback c (List.mem_reverse.1 hc)
  unfold trimBlank
  rw [List.dropWhile_append_of_pos hfront]
  by_cases hcore : core = []
  · have hall : (back ++ []).dropWhile isBlank = [] := dropWhile_append_of_head hback (by simp)
    rw [List.append_nil] at hall
    rw [hcore, List.nil_append, hall]
    rfl
  · obtain ⟨c, rest, rfl⟩ := List.exists_cons_of_ne_nil hcore
    rw [List.cons_append, List.dropWhile_cons_of_neg (by simp [h.first c rfl]), ← List.cons_append,
      List.reverse_append, dropWhile_append_of_head hback', List.reverse_reverse]
    rw [List.head?_reverse]
    exact h.last

theorem isTrimmed_trimBlank (cs : List Char) : IsTrimmed cs (trimBlank cs) := by
  -- what is left when the blanks in front are dropped, and what of that when those behind are
  generalize hrest : cs.dropWhile isBlank = rest
  have hback : trimBlank cs ++ (rest.reverse.takeWhile isBlank).reverse = rest := by
    unfold trimBlank
    rw [hrest, ← List.reverse_append, List.takeWhile_append_dropWhile, List.reverse_reverse]
  refine ⟨⟨cs.takeWhile isBlank, (rest.reverse.takeWhile isBlank).reverse, ?_, ?_, ?_⟩, ?_, ?_⟩
  · rw [hback, ← hrest, List.takeWhile_append_dropWhile]
  · exact fun c hc => isBlank_of_mem_takeWhile hc
  · exact fun c hc => isBlank_of_mem_takeWhile (List.mem_reverse.1 hc)
  · intro c hc
    have hhead : (cs.dropWhile isBlank).head? = some c := by
      rw [hrest, ← hback, List.head?_append, hc, Option.some_or]
    exact isBlank_of_head?_dropWhile hhead
  · intro c hc
    unfold trimBlank at hc
    rw [hrest, List.getLast?_reverse] at hc
    exact isBlank_of_head?_dropWhile hc

/-- **A text is trimmed to one part.** -/
theorem isTrimmed_iff {cs core : List Char} : IsTrimmed cs core ↔ trimBlank cs = core :=
  ⟨trimBlank_of_isTrimmed, fun h => h ▸ isTrimmed_trimBlank cs⟩

end Dql.Text
