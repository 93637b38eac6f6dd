import Dql.Proofs.Difference.First
import Dql.Proofs.Query.Sameness
import Mathlib.Data.List.Forall2

/-!
# Values without a difference

A missing member stands for `null`, so members that are `null` are never reported. Nothing
else is passed over: two values without a difference are the same once the members that are
`null` are taken out of all their objects (`alike_iff`).

Both sides of this are read part by part. Values are alike if their members are alike under
every key (`alike_objects`) and their items one by one (`alike_arrays`); and sorted entries
are determined by what is found in them under every key (`SortedEntries.ext`).
-/

namespace Dql

theorem forall₂_iff_of_mem {α β : Type} {R S : α → β → Prop} {xs : List α} {ys : List β}
    (h : ∀ x ∈ xs, ∀ y ∈ ys, (R x y ↔ S x y)) : List.Forall₂ R xs ys ↔ List.Forall₂ S xs ys := by
  rw [List.forall₂_iff_get, List.forall₂_iff_get]
  refine and_congr_right fun _ => forall_congr' fun i => forall₂_congr fun hx hy => ?_
  exact h _ (List.get_mem xs ⟨i, hx⟩) _ (List.get_mem ys ⟨i, hy⟩)

namespace Json

open SortedEntries (Sorted)

/-- To show something of every value, show it of a list or an object whose parts have it. -/
@[elab_as_elim]
theorem induction {P : Json → Prop}
    (scalar : ∀ j, (∀ xs, j ≠ array xs) → (∀ ms, j ≠ object ms) → P j)
    (items : ∀ xs, (∀ x ∈ xs, P x) → P (array xs))
    (members : ∀ ms : List (String × Json), (∀ m ∈ ms, P m.2) → P (object ms)) (j : Json) :
    P j := by
  refine Json.rec (motive_1 := P) (motive_2 := fun xs => ∀ x ∈ xs, P x)
    (motive_3 := fun ms => ∀ m ∈ ms, P m.2) (motive_4 := fun m => P m.2)
    (scalar _ nofun nofun) (fun _ => scalar _ nofun nofun) (fun _ => scalar _ nofun nofun)
    (fun _ => scalar _ nofun nofun) items members nofun (fun _ _ hx hxs => ?_) nofun
    (fun _ _ hm hms => ?_) (fun _ _ h => h) j
  · exact List.forall_mem_cons.2 ⟨hx, hxs⟩
  · exact List.forall_mem_cons.2 ⟨hm, hms⟩

/-! ## Alike values -/

/-- Two values without a difference. -/
def Alike (e p : Json) : Prop := ∀ place m, ¬ DiffersAt e p place m

theorem alike_iff_of_not_lookedInto {e p : Json} (h : ¬ LookedInto e p) :
    Alike e p ↔ e.same p = true := by
  unfold Alike
  simp only [differsAt_of_not_lookedInto h]
  constructor
  · intro hno
    by_cases hsame : e.same p = true
    · exact hsame
    · exact absurd ⟨rfl, rfl, hsame⟩ (hno [] (.values e p))
  · rintro hsame place m ⟨-, -, hne⟩
    exact hne hsame

theorem alike_objects {ms ns : List (String × Json)} :
    Alike (object ms) (object ns) ↔ ∀ k, Alike (memberOrNull k ms) (memberOrNull k ns) := by
  unfold Alike
  simp only [differsAt_objects]
  constructor
  · intro h k place m hdiff
    exact h (.key k :: place) m ⟨k, place, rfl, hdiff⟩
  · rintro h _ m ⟨k, place, rfl, hdiff⟩
    exact h k place m hdiff

theorem alike_arrays {xs ys : List Json} :
    Alike (array xs) (array ys) ↔ List.Forall₂ Alike xs ys := by
  rw [List.forall₂_iff_get]
  unfold Alike
  simp only [differsAt_arrays]
  constructor
  · intro h
    refine ⟨?_, fun i hx hy place m hdiff => h (.index (0 + i) :: place) m (.inl ?_)⟩
    · by_cases hlength : xs.length = ys.length
      · exact hlength
      · exact absurd (.inr ⟨rfl, rfl, hlength⟩) (h [] _)
    · exact ⟨i, _, _, place, rfl, List.getElem?_eq_getElem hx, List.getElem?_eq_getElem hy, hdiff⟩
  · rintro ⟨hlength, hitems⟩ place m (⟨i, x, y, rest, -, hx, hy, hdiff⟩ | ⟨-, -, hne⟩)
    · obtain ⟨hi, rfl⟩ := List.getElem?_eq_some_iff.1 hx
      obtain ⟨hi', rfl⟩ := List.getElem?_eq_some_iff.1 hy
      exact hitems i hi hi' rest m hdiff
    · exact hne hlength

/-! ## Taking the nulls out -/

mutual

/-- The value without the members that are `null`, of any object in it. -/
def withoutNulls : Json → Json
  | array xs => array (itemsWithoutNulls xs)
  | object ms => object (membersWithoutNulls ms)
  | scalar => scalar

/-- Each value without the members that are `null`. -/
def itemsWithoutNulls : List Json → List Json
  | [] => []
  | x :: xs => x.withoutNulls :: itemsWithoutNulls xs

/-- The members that are not `null`, each without such members. -/
def membersWithoutNulls : List (String × Json) → List (String × Json)
  | [] => []
  | (k, x) :: ms =>
    if x.isNull then membersWithoutNulls ms else (k, x.withoutNulls) :: membersWithoutNulls ms

end

theorem itemsWithoutNulls_eq_map (xs : List Json) :
    itemsWithoutNulls xs = xs.map withoutNulls := by
  induction xs with
  | nil => rfl
  | cons x rest ih => rw [itemsWithoutNulls, ih, List.map_cons]

/-- The members that are not `null`. -/
def present (ms : List (String × Json)) : List (String × Json) := ms.filter fun m => !m.2.isNull

theorem membersWithoutNulls_eq_map (ms : List (String × Json)) :
    membersWithoutNulls ms = (present ms).map fun m => (m.1, m.2.withoutNulls) := by
  induction ms with
  | nil => rfl
  | cons m rest ih =>
    unfold present at ih ⊢
    rw [membersWithoutNulls, ih, List.filter_cons]
    cases m.2.isNull <;> rfl

theorem unsignMembers_eq_map (ms : List (String × Json)) :
    unsignMembers ms = ms.map fun m => (m.1, m.2.unsignZeros) := by
  induction ms with
  | nil => rfl
  | cons m rest ih => rw [unsignMembers, ih, List.map_cons]

theorem unsignItems_eq_map (xs : List Json) : unsignItems xs = xs.map unsignZeros := by
  induction xs with
  | nil => rfl
  | cons x rest ih => rw [unsignItems, ih, List.map_cons]

/-- A member that is `null` may as well be missing. -/
theorem memberOrNull_present {ms : List (String × Json)} (h : (ms.map Prod.fst).Nodup)
    (key : String) : memberOrNull key (present ms) = memberOrNull key ms := by
  unfold present
  induction ms with
  | nil => rfl
  | cons m rest ih =>
    obtain ⟨k, x⟩ := m
    rw [List.map_cons, List.nodup_cons] at h
    rw [List.filter_cons]
    by_cases hk : k = key
    · subst hk
      rw [memberOrNull_cons_self]
      cases hx : x.isNull with
      | false => exact memberOrNull_cons_self k x _
      | true =>
        rw [eq_null_of_isNull hx, if_neg (by simp)]
        refine memberOrNull_of_ne fun m hm heq => h.1 ?_
        exact List.mem_map.2 ⟨m, List.mem_of_mem_filter hm, heq⟩
    · rw [memberOrNull_cons_of_ne hk, ← ih h.2]
      cases x.isNull with
      | false => exact memberOrNull_cons_of_ne hk x _
      | true => rfl

theorem memberOrNull_mem_or_eq_null (key : String) (ms : List (String × Json)) :
    (∃ m ∈ ms, memberOrNull key ms = m.2) ∨ memberOrNull key ms = null := by
  unfold memberOrNull member?
  cases hfind : SortedEntries.find? key ms with
  | none => exact .inr rfl
  | some x => exact .inl ⟨_, SortedEntries.mem_of_find? hfind, rfl⟩

theorem Ordered.memberOrNull {ms : List (String × Json)} (h : (object ms).Ordered) {key : String} :
    (memberOrNull key ms).Ordered := by
  rcases memberOrNull_mem_or_eq_null key ms with ⟨m, hm, hmember⟩ | hnull
  · rw [hmember]
    exact h.members.2 m hm
  · rw [hnull]
    rfl

theorem memberOrNull_map {f : Json → Json} (hf : f null = null) (key : String)
    (ms : List (String × Json)) :
    memberOrNull key (ms.map fun m => (m.1, f m.2)) = f (memberOrNull key ms) := by
  unfold memberOrNull member?
  rw [SortedEntries.find?_map]
  cases SortedEntries.find? key ms with
  | none => exact hf.symm
  | some x => rfl

/-- Sorted members of which none is `null` are determined by what an object holds of them. -/
theorem eq_of_memberOrNull {ms ns : List (String × Json)} (hms : Sorted ms) (hns : Sorted ns)
    (hms' : ∀ m ∈ ms, m.2 ≠ null) (hns' : ∀ n ∈ ns, n.2 ≠ null)
    (h : ∀ key, memberOrNull key ms = memberOrNull key ns) : ms = ns := by
  refine SortedEntries.ext hms hns fun key => ?_
  have hkey := h key
  unfold memberOrNull member? at hkey
  cases hfind : SortedEntries.find? key ms with
  | none =>
    cases hfind' : SortedEntries.find? key ns with
    | none => rfl
    | some y =>
      rw [hfind, hfind'] at hkey
      exact absurd hkey.symm (hns' _ (SortedEntries.mem_of_find? hfind'))
  | some x =>
    cases hfind' : SortedEntries.find? key ns with
    | none =>
      rw [hfind, hfind'] at hkey
      exact absurd hkey (hms' _ (SortedEntries.mem_of_find? hfind))
    | some y =>
      rw [hfind, hfind'] at hkey
      exact congrArg some hkey

/-- The value without the members that are `null` and without the signs of zeros. -/
def essence (j : Json) : Json := j.withoutNulls.unsignZeros

theorem essence_eq_null_iff {j : Json} : j.essence = null ↔ j.isNull = true := by
  cases j <;> simp [essence, withoutNulls, unsignZeros, isNull]

theorem essence_array (xs : List Json) : (array xs).essence = array (xs.map essence) := by
  rw [essence, withoutNulls, unsignZeros, itemsWithoutNulls_eq_map, unsignItems_eq_map,
    List.map_map]
  rfl

theorem essence_object (ms : List (String × Json)) :
    (object ms).essence = object ((present ms).map fun m => (m.1, m.2.essence)) := by
  rw [essence, withoutNulls, unsignZeros, membersWithoutNulls_eq_map, unsignMembers_eq_map,
    List.map_map]
  rfl

theorem essence_objects_iff {ms ns : List (String × Json)} (hms : Sorted ms) (hns : Sorted ns) :
    (object ms).essence = (object ns).essence ↔
      ∀ key, (memberOrNull key ms).essence = (memberOrNull key ns).essence := by
  have hmember : ∀ {ms}, Sorted ms → ∀ key,
      memberOrNull key ((present ms).map fun m => (m.1, m.2.essence)) =
        (memberOrNull key ms).essence := fun h key => by
    rw [memberOrNull_map rfl, memberOrNull_present (SortedEntries.nodup_keys h)]
  have hsorted : ∀ {ms}, Sorted ms →
      Sorted ((present ms).map fun m => (m.1, m.2.essence)) := fun h =>
    List.pairwise_map.2 (h.sublist List.filter_sublist)
  have hpresent : ∀ {ms : List (String × Json)},
      ∀ m ∈ (present ms).map fun m => (m.1, m.2.essence), m.2 ≠ null := by
    intro ms m hm
    obtain ⟨n, hn, rfl⟩ := List.mem_map.1 hm
    rw [Ne, essence_eq_null_iff, Bool.not_eq_true]
    simpa using (List.mem_filter.1 hn).2
  rw [essence_object, essence_object, object.injEq]
  constructor
  · intro h key
    rw [← hmember hms, h, hmember hns]
  · intro h
    refine eq_of_memberOrNull (hsorted hms) (hsorted hns) hpresent hpresent fun key => ?_
    rw [hmember hms, hmember hns, h]

theorem alike_iff_essence_of_not_lookedInto {e p : Json} (h : ¬ LookedInto e p) :
    Alike e p ↔ e.essence = p.essence := by
  rw [alike_iff_of_not_lookedInto h, same_iff]
  cases e with
  | array xs =>
    cases p with
    | array ys => exact absurd (.arrays xs ys) h
    | _ => simp [essence, withoutNulls, unsignZeros]
  | object ms =>
    cases p with
    | object ns => exact absurd (.objects ms ns) h
    | _ => simp [essence, withoutNulls, unsignZeros]
  | _ => cases p <;> simp [essence, withoutNulls, unsignZeros]

theorem alike_iff_essence {e p : Json} (he : e.Ordered) (hp : p.Ordered) :
    Alike e p ↔ e.essence = p.essence := by
  induction e using induction generalizing p with
  | scalar e hitems hmembers =>
    refine alike_iff_essence_of_not_lookedInto fun hinto => ?_
    cases hinto with
    | arrays xs => exact hitems xs rfl
    | objects ms => exact hmembers ms rfl
  | items xs ih =>
    cases p with
    | array ys =>
      rw [alike_arrays, essence_array, essence_array, array.injEq, ← List.forall₂_eq_eq_eq,
        List.forall₂_map_left_iff, List.forall₂_map_right_iff]
      exact forall₂_iff_of_mem fun x hx y hy => ih x hx (he.items x hx) (hp.items y hy)
    | _ => exact alike_iff_essence_of_not_lookedInto (by rintro ⟨⟩)
  | members ms ih =>
    cases p with
    | object ns =>
      rw [alike_objects, essence_objects_iff he.members.1 hp.members.1]
      refine forall_congr' fun key => ?_
      rcases memberOrNull_mem_or_eq_null key ms with ⟨m, hm, hmember⟩ | hnull
      · rw [hmember]
        exact ih m hm (he.members.2 m hm) hp.memberOrNull
      · rw [hnull]
        exact alike_iff_essence_of_not_lookedInto (not_lookedInto_null_left _)
    | _ => exact alike_iff_essence_of_not_lookedInto (by rintro ⟨⟩)

/-- **Values without a difference** are the same once the members that are `null` are taken
out of them. -/
theorem alike_iff {e p : Json} (he : e.Ordered) (hp : p.Ordered) :
    Alike e p ↔ e.withoutNulls.same p.withoutNulls = true := by
  rw [alike_iff_essence he hp, same_iff]
  rfl

end Json

end Dql
