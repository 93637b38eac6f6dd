import Dql.Table
import Mathlib.Data.List.Basic
import Mathlib.Logic.Function.Basic

/-!
# What is found in entries

Entries are searched from the front, so what is found under a key in a list of entries says
where the key is bound first. Sorted entries bind each key once, and they are determined by
what is found in them (`SortedEntries.ext`). To sort entries with different keys changes
nothing in this respect (`SortedEntries.find?_ofList`).
-/

namespace Dql

namespace SortedEntries

variable {κ ν : Type} [Ord κ]

theorem ne_of_lt [Std.ReflOrd κ] {a b : κ} (h : compare a b = .lt) : a ≠ b := by
  rintro rfl
  have hself : compare a a = .eq := Std.ReflCmp.compare_self
  rw [hself] at h
  exact absurd h (by decide)

theorem find?_cons_self [Std.ReflOrd κ] (e : κ × ν) (entries : List (κ × ν)) :
    find? e.1 (e :: entries) = some e.2 := by
  rw [find?, if_pos Std.ReflCmp.compare_self]

theorem find?_append (key : κ) (xs ys : List (κ × ν)) :
    find? key (xs ++ ys) = (find? key xs).or (find? key ys) := by
  induction xs with
  | nil => rfl
  | cons x xs ih =>
    rw [List.cons_append, find?, find?]
    split
    · rfl
    · exact ih

section Lawful

variable [Std.LawfulEqOrd κ]

theorem find?_cons_of_ne {key : κ} {e : κ × ν} (h : e.1 ≠ key) (entries : List (κ × ν)) :
    find? key (e :: entries) = find? key entries := by
  rw [find?, if_neg]
  exact fun heq => h (Std.LawfulEqCmp.eq_of_compare heq).symm

theorem find?_eq_none_iff {key : κ} {entries : List (κ × ν)} :
    find? key entries = none ↔ ∀ e ∈ entries, e.1 ≠ key := by
  induction entries with
  | nil => exact iff_of_true rfl nofun
  | cons e rest ih =>
    rw [List.forall_mem_cons]
    by_cases hk : e.1 = key
    · subst hk
      rw [find?_cons_self]
      exact iff_of_false nofun fun h => h.1 rfl
    · rw [find?_cons_of_ne hk, ih, and_iff_right hk]

theorem find?_eq_none_of_lt {key : κ} {entries : List (κ × ν)}
    (h : ∀ e ∈ entries, compare key e.1 = .lt) : find? key entries = none :=
  find?_eq_none_iff.2 fun e he => (ne_of_lt (h e he)).symm

theorem nodup_keys {entries : List (κ × ν)} (h : Sorted entries) :
    (entries.map Prod.fst).Nodup :=
  List.pairwise_map.2 (h.imp ne_of_lt)

/-- A key in front of all others is not found among them. -/
theorem not_find?_eq_of_lt {e : κ × ν} {xs ys : List (κ × ν)}
    (hlt : ∀ y ∈ ys, compare e.1 y.1 = .lt) : find? e.1 (e :: xs) ≠ find? e.1 ys := by
  rw [find?_cons_self, find?_eq_none_of_lt hlt]
  nofun

variable [Std.TransOrd κ]

/-- Sorted entries are determined by what is found under every key. -/
theorem ext {xs ys : List (κ × ν)} (hxs : Sorted xs) (hys : Sorted ys)
    (h : ∀ key, find? key xs = find? key ys) : xs = ys := by
  induction xs generalizing ys with
  | nil =>
    cases ys with
    | nil => rfl
    | cons y ys => exact absurd (h y.1).symm (not_find?_eq_of_lt nofun)
  | cons x xs ih =>
    cases ys with
    | nil => exact absurd (h x.1) (not_find?_eq_of_lt nofun)
    | cons y ys =>
      obtain ⟨hx, hxs⟩ := List.pairwise_cons.1 hxs
      obtain ⟨hy, hys⟩ := List.pairwise_cons.1 hys
      -- the first keys agree: the smaller one would not be found on the other side
      have hkey : x.1 = y.1 := by
        cases hc : compare x.1 y.1 with
        | eq => exact Std.LawfulEqCmp.eq_of_compare hc
        | lt =>
          refine absurd (h x.1) (not_find?_eq_of_lt (List.forall_mem_cons.2 ⟨hc, fun z hz => ?_⟩))
          exact Std.TransCmp.lt_trans hc (hy z hz)
        | gt =>
          have hc := Std.OrientedCmp.gt_iff_lt.1 hc
          refine absurd (h y.1).symm
            (not_find?_eq_of_lt (List.forall_mem_cons.2 ⟨hc, fun z hz => ?_⟩))
          exact Std.TransCmp.lt_trans hc (hx z hz)
      have hvalue : x.2 = y.2 := by
        have hfind := h x.1
        rw [find?_cons_self, hkey, find?_cons_self] at hfind
        exact Option.some.inj hfind
      rw [Prod.ext hkey hvalue, ih hxs hys fun key => ?_]
      by_cases hk : x.1 = key
      · subst hk
        rw [find?_eq_none_of_lt hx, hkey, find?_eq_none_of_lt hy]
      · have hfind := h key
        rwa [find?_cons_of_ne hk, find?_cons_of_ne (hkey ▸ hk)] at hfind

theorem find?_foldl_insert {new entries : List (κ × ν)} (h : (new.map Prod.fst).Nodup) (key : κ) :
    find? key (new.foldl (fun acc e => insert e.1 e.2 acc) entries) =
      (find? key new).or (find? key entries) := by
  induction new generalizing entries with
  | nil => rfl
  | cons e rest ih =>
    rw [List.map_cons, List.nodup_cons] at h
    rw [List.foldl_cons, ih h.2]
    by_cases hk : e.1 = key
    · subst hk
      have hrest : find? e.1 rest = none :=
        find?_eq_none_iff.2 fun x hx heq => h.1 (List.mem_map.2 ⟨x, hx, heq⟩)
      rw [hrest, find?_insert_self, find?_cons_self]
      rfl
    · rw [find?_insert_of_ne (Ne.symm hk), find?_cons_of_ne hk]

/-- Entries with different keys are found where they were before they were sorted. -/
theorem find?_ofList {entries : List (κ × ν)} (h : (entries.map Prod.fst).Nodup) (key : κ) :
    find? key (ofList entries) = find? key entries := by
  unfold ofList
  rw [find?_foldl_insert h]
  exact Option.or_none

end Lawful

end SortedEntries

namespace Table

variable {κ ν μ ξ : Type} [Ord κ]

theorem map_map (f : κ → ν → μ) (g : κ → μ → ξ) (t : Table κ ν) :
    (t.map f).map g = t.map fun k v => g k (f k v) :=
  ext_entries List.map_map

theorem map_id (t : Table κ ν) : (t.map fun _ v => v) = t := ext_entries (List.map_id _)

theorem map_injective {f : ν → μ} (hf : Function.Injective f) :
    Function.Injective fun t : Table κ ν => t.map fun _ v => f v := by
  have hentry : Function.Injective fun e : κ × ν => (e.1, f e.2) := fun d e h =>
    Prod.ext (Prod.mk.inj h).1 (hf (Prod.mk.inj h).2)
  exact fun s t h => ext_entries (hentry.list_map (congrArg Table.entries h))

end Table

end Dql
