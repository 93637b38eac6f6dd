import Dql.Proofs.Difference.Place

/-!
# The first difference of two values

`firstDifference` reports the first place at which two values differ, and nothing if there
is none (`reports_firstDifference`). Each function it is made of goes through some of the
places and reports the first of its own: `differAt` looks at one place, `itemDifference` at
the items that two lists have both, and `memberDifference` at the members of two objects.
The last has to be followed closest: it takes the keys of the first object in turn, and in
front of each the keys that only the second one has (`reports_memberDifference_cons`).
-/

namespace Dql

namespace Json

open SortedEntries (Sorted)

/-! ## Values -/

theorem differsAt_of_not_lookedInto {e p : Json} (h : ¬ LookedInto e p) {place : List Step}
    {m : Mismatch} : DiffersAt e p place m ↔ place = [] ∧ m = .values e p ∧ ¬ e.same p = true := by
  rw [Bool.not_eq_true]
  constructor
  · intro hd
    cases hd with
    | values _ hsame => exact ⟨rfl, rfl, hsame⟩
    | lengths => exact absurd (.arrays _ _) h
    | member => exact absurd (.objects _ _) h
    | item => exact absurd (.arrays _ _) h
  · rintro ⟨rfl, rfl, hsame⟩
    exact .values h hsame

theorem reports_differAt (path : String) {e p : Json} (h : ¬ LookedInto e p) :
    Reports path (DiffersAt e p) (differAt path e p) := by
  unfold differAt
  rw [differText_eq]
  exact (Reports.here path (e.same p = true) (.values e p)).congr fun _ _ =>
    differsAt_of_not_lookedInto h

theorem not_lookedInto_null_left (y : Json) : ¬ LookedInto .null y := nofun

theorem not_lookedInto_null_right (x : Json) : ¬ LookedInto x .null := nofun

theorem not_differsAt_null {place : List Step} {m : Mismatch} :
    ¬ DiffersAt .null .null place m := by
  intro h
  cases h with
  | values _ h => exact absurd h (by decide)

/-! ## Members -/

/-- The differences between the members of two objects. -/
def MembersDiffer (ms ns : List (String × Json)) : Differences := fun place m =>
  ∃ k rest, place = .key k :: rest ∧ DiffersAt (memberOrNull k ms) (memberOrNull k ns) rest m

theorem differsAt_objects {ms ns : List (String × Json)} {place : List Step} {m : Mismatch} :
    DiffersAt (object ms) (object ns) place m ↔ MembersDiffer ms ns place m := by
  constructor
  · intro h
    cases h with
    | values hinto => exact absurd (.objects ms ns) hinto
    | member k h => exact ⟨k, _, rfl, h⟩
  · rintro ⟨k, rest, rfl, h⟩
    exact .member k h

section Members

variable {ms ns ms₁ ms₂ ns₁ ns₂ : List (String × Json)} {k : String} {place : List Step}
  {m : Mismatch} {path : String} {o₁ o₂ : Option String}

/-- Only under a key that one of them has do two objects differ. -/
theorem exists_mem_of_differsAt (h : DiffersAt (memberOrNull k ms) (memberOrNull k ns) place m) :
    ∃ a ∈ ms ++ ns, a.1 = k := by
  refine Classical.byContradiction fun hno => ?_
  have hms : ∀ a ∈ ms, a.1 ≠ k := fun a ha hk => hno ⟨a, List.mem_append_left _ ha, hk⟩
  have hns : ∀ a ∈ ns, a.1 ≠ k := fun a ha hk => hno ⟨a, List.mem_append_right _ ha, hk⟩
  rw [memberOrNull_of_ne hms, memberOrNull_of_ne hns] at h
  exact not_differsAt_null h

/-- The members under one key. -/
theorem membersDiffer_single (h : ∀ a ∈ ms ++ ns, a.1 = k) :
    MembersDiffer ms ns place m ↔
      under (.key k) (DiffersAt (memberOrNull k ms) (memberOrNull k ns)) place m := by
  constructor
  · rintro ⟨l, rest, rfl, hdiff⟩
    obtain ⟨a, ha, rfl⟩ := exists_mem_of_differsAt hdiff
    obtain rfl := h a ha
    exact ⟨rest, rfl, hdiff⟩
  · rintro ⟨rest, rfl, hdiff⟩
    exact ⟨k, rest, rfl, hdiff⟩

/-- All keys of some members come before those of others. -/
def KeysBefore (ms ns : List (String × Json)) : Prop :=
  ∀ a ∈ ms, ∀ b ∈ ns, compare a.1 b.1 = .lt

theorem KeysBefore.ne (h : KeysBefore ms ns) {a b : String × Json} (ha : a ∈ ms) (hb : b ∈ ns) :
    a.1 ≠ b.1 := SortedEntries.ne_of_lt (h a ha b hb)

theorem membersDiffer_append (hkeys : KeysBefore (ms₁ ++ ns₁) (ms₂ ++ ns₂)) :
    MembersDiffer (ms₁ ++ ms₂) (ns₁ ++ ns₂) place m ↔
      MembersDiffer ms₁ ns₁ place m ∨ MembersDiffer ms₂ ns₂ place m := by
  -- a key is on one side of the cut only: there are no members with it on the other
  have hleft : ∀ {a}, a ∈ ms₁ ++ ns₁ →
      memberOrNull a.1 (ms₁ ++ ms₂) = memberOrNull a.1 ms₁ ∧
      memberOrNull a.1 (ns₁ ++ ns₂) = memberOrNull a.1 ns₁ := fun ha =>
    ⟨memberOrNull_append_right (fun b hb => (hkeys.ne ha (List.mem_append_left _ hb)).symm) _,
      memberOrNull_append_right (fun b hb => (hkeys.ne ha (List.mem_append_right _ hb)).symm) _⟩
  have hright : ∀ {b}, b ∈ ms₂ ++ ns₂ →
      memberOrNull b.1 (ms₁ ++ ms₂) = memberOrNull b.1 ms₂ ∧
      memberOrNull b.1 (ns₁ ++ ns₂) = memberOrNull b.1 ns₂ := fun hb =>
    ⟨memberOrNull_append_left (fun a ha => hkeys.ne (List.mem_append_left _ ha) hb) _,
      memberOrNull_append_left (fun a ha => hkeys.ne (List.mem_append_right _ ha) hb) _⟩
  constructor
  · rintro ⟨k, rest, rfl, hdiff⟩
    obtain ⟨a, ha, rfl⟩ := exists_mem_of_differsAt hdiff
    have hside : a ∈ ms₁ ++ ns₁ ∨ a ∈ ms₂ ++ ns₂ := by
      simp only [List.mem_append] at ha ⊢
      exact or_or_or_comm.1 ha
    rcases hside with ha | ha
    · rw [(hleft ha).1, (hleft ha).2] at hdiff
      exact .inl ⟨_, _, rfl, hdiff⟩
    · rw [(hright ha).1, (hright ha).2] at hdiff
      exact .inr ⟨_, _, rfl, hdiff⟩
  · rintro (⟨k, rest, rfl, hdiff⟩ | ⟨k, rest, rfl, hdiff⟩)
    · obtain ⟨a, ha, rfl⟩ := exists_mem_of_differsAt hdiff
      rw [← (hleft ha).1, ← (hleft ha).2] at hdiff
      exact ⟨_, _, rfl, hdiff⟩
    · obtain ⟨a, ha, rfl⟩ := exists_mem_of_differsAt hdiff
      rw [← (hright ha).1, ← (hright ha).2] at hdiff
      exact ⟨_, _, rfl, hdiff⟩

/-- Members are gone through in the order of their keys. -/
theorem Reports.members (hkeys : KeysBefore (ms₁ ++ ns₁) (ms₂ ++ ns₂))
    (h₁ : Reports path (MembersDiffer ms₁ ns₁) o₁) (h₂ : Reports path (MembersDiffer ms₂ ns₂) o₂) :
    Reports path (MembersDiffer (ms₁ ++ ms₂) (ns₁ ++ ns₂)) (o₁.or o₂) := by
  refine (h₁.or h₂ ?_).congr fun _ _ => membersDiffer_append hkeys
  rintro _ m _ m' ⟨k, rest, rfl, hk⟩ ⟨l, rest', rfl, hl⟩
  obtain ⟨a, ha, rfl⟩ := exists_mem_of_differsAt hk
  obtain ⟨b, hb, rfl⟩ := exists_mem_of_differsAt hl
  exact .key (hkeys a ha b hb) rest rest'

/-- The members under the first key are gone through before those behind it. -/
theorem Reports.first_key (ms₁ ns₁ : List (String × Json)) (hkey : ∀ a ∈ ms₁ ++ ns₁, a.1 = k)
    (hbehind : ∀ b ∈ ms₂ ++ ns₂, compare k b.1 = .lt)
    (h₁ : Reports (path ++ "." ++ k) (DiffersAt (memberOrNull k ms₁) (memberOrNull k ns₁)) o₁)
    (h₂ : Reports path (MembersDiffer ms₂ ns₂) o₂) :
    Reports path (MembersDiffer (ms₁ ++ ms₂) (ns₁ ++ ns₂)) (o₁.or o₂) := by
  have hone : Reports path (MembersDiffer ms₁ ns₁) o₁ :=
    (Reports.under (.key k) h₁).congr fun _ _ => membersDiffer_single hkey
  refine hone.members (fun a ha b hb => ?_) h₂
  rw [hkey a ha]
  exact hbehind b hb

/-- The members that are there on one side only. -/
theorem reports_extraMember (path : String) (hns : Sorted ns) :
    Reports path (MembersDiffer [] ns) (extraMember path ns) := by
  induction ns with
  | nil =>
    rintro place m ⟨k, rest, -, hdiff⟩
    exact not_differsAt_null hdiff
  | cons n ns ih =>
    obtain ⟨hn, hns⟩ := List.pairwise_cons.1 hns
    have hfirst := reports_differAt (path ++ "." ++ n.1) (not_lookedInto_null_left n.2)
    rw [← memberOrNull_cons_self n.1 n.2 []] at hfirst
    have hrest := Reports.first_key [] [n] (by simp) (by simpa using hn) hfirst (ih hns)
    rw [memberOrNull_cons_self] at hrest
    unfold extraMember at hrest ⊢
    rw [List.findSome?_cons]
    cases hd : differAt (path ++ "." ++ n.1) .null n.2 with
    | none => rwa [hd, Option.none_or] at hrest
    | some text => rwa [hd, Option.some_or] at hrest

end Members

/-! ## Items -/

/-- The differences between the items that two lists have both, counted from `i`. -/
def ItemsDiffer (i : Nat) (xs ys : List Json) : Differences := fun place m =>
  ∃ n x y rest, place = .index (i + n) :: rest ∧ xs[n]? = some x ∧ ys[n]? = some y ∧
    DiffersAt x y rest m

section Items

variable {x y : Json} {xs ys : List Json} {i : Nat} {place : List Step} {m : Mismatch}
  {path : String} {o₁ o₂ : Option String}

theorem itemsDiffer_cons : ItemsDiffer i (x :: xs) (y :: ys) place m ↔
    under (.index i) (DiffersAt x y) place m ∨ ItemsDiffer (i + 1) xs ys place m := by
  constructor
  · rintro ⟨n, x', y', rest, rfl, hx, hy, hdiff⟩
    cases n with
    | zero =>
      obtain rfl : x = x' := by simpa using hx
      obtain rfl : y = y' := by simpa using hy
      exact .inl ⟨rest, rfl, hdiff⟩
    | succ n =>
      exact .inr ⟨n, x', y', rest, by rw [Nat.add_right_comm, Nat.add_assoc], by simpa using hx,
        by simpa using hy, hdiff⟩
  · rintro (⟨rest, rfl, hdiff⟩ | ⟨n, x', y', rest, rfl, hx, hy, hdiff⟩)
    · exact ⟨0, x, y, rest, rfl, rfl, rfl, hdiff⟩
    · exact ⟨n + 1, x', y', rest, by rw [Nat.add_right_comm, Nat.add_assoc], by simpa using hx,
        by simpa using hy, hdiff⟩

/-- Items are gone through in the order of the lists. -/
theorem Reports.items (h₁ : Reports s!"{path}[{i}]" (DiffersAt x y) o₁)
    (h₂ : Reports path (ItemsDiffer (i + 1) xs ys) o₂) :
    Reports path (ItemsDiffer i (x :: xs) (y :: ys)) (o₁.or o₂) := by
  refine ((Reports.under (.index i) h₁).or h₂ ?_).congr fun _ _ => itemsDiffer_cons
  rintro _ m _ m' ⟨rest, rfl, -⟩ ⟨n, _, _, rest', rfl, -⟩
  exact .index (by omega) rest rest'

/-- The length of two lists comes behind the items in them. -/
theorem differsAt_arrays : DiffersAt (array xs) (array ys) place m ↔
    ItemsDiffer 0 xs ys place m ∨
      place = [] ∧ m = .lengths xs.length ys.length ∧ xs.length ≠ ys.length := by
  constructor
  · intro h
    cases h with
    | values hinto => exact absurd (.arrays xs ys) hinto
    | lengths h => exact .inr ⟨rfl, rfl, h⟩
    | @item _ _ x y rest _ n hx hy h => exact .inl ⟨n, x, y, rest, by rw [Nat.zero_add], hx, hy, h⟩
  · rintro (⟨n, x, y, rest, rfl, hx, hy, h⟩ | ⟨rfl, rfl, h⟩)
    · rw [Nat.zero_add]
      exact .item hx hy h
    · exact .lengths h

end Items

/-! ## The report on two values -/

theorem firstDifference_of_not_lookedInto (path : String) {e p : Json} (h : ¬ LookedInto e p) :
    firstDifference path e p = differAt path e p := by
  unfold firstDifference
  split
  · exact absurd (.objects _ _) h
  · exact absurd (.arrays _ _) h
  · rfl

theorem reports_firstDifference_of_not_lookedInto (path : String) {e p : Json}
    (h : ¬ LookedInto e p) : Reports path (DiffersAt e p) (firstDifference path e p) := by
  rw [firstDifference_of_not_lookedInto path h]
  exact reports_differAt path h

section Members

variable {ms ns : List (String × Json)} {k : String} {x : Json} {path : String}

/-- The members of an object whose keys come before a key. -/
abbrev membersBefore (k : String) (ns : List (String × Json)) : List (String × Json) :=
  ns.takeWhile fun n => compare n.1 k == .lt

/-- The members of an object from a key on. -/
abbrev membersFrom (k : String) (ns : List (String × Json)) : List (String × Json) :=
  ns.dropWhile fun n => compare n.1 k == .lt

theorem lt_of_mem_membersBefore {n : String × Json} (h : n ∈ membersBefore k ns) :
    compare n.1 k = .lt := by
  have hall := List.all_eq_true.1 List.all_takeWhile n h
  exact eq_of_beq hall

/-- The first member from a key on has that key, or lies behind it. -/
theorem eq_or_lt_of_membersFrom {n : String × Json} {ns' : List (String × Json)}
    (h : membersFrom k ns = n :: ns') : n.1 = k ∨ compare k n.1 = .lt := by
  have hhead := List.head?_dropWhile_not (fun n : String × Json => compare n.1 k == .lt) ns
  rw [show ns.dropWhile _ = n :: ns' from h] at hhead
  cases hc : compare n.1 k with
  | lt => simp [hc] at hhead
  | eq => exact .inl (Std.LawfulEqCmp.eq_of_compare hc)
  | gt => exact .inr (Std.OrientedCmp.gt_iff_lt.1 hc)

theorem forall_mem_membersFrom (hns : Sorted ns) :
    ∀ n ∈ membersFrom k ns, n.1 = k ∨ compare k n.1 = .lt := by
  have hsorted : Sorted (membersFrom k ns) := hns.sublist (List.dropWhile_sublist _)
  cases hfrom : membersFrom k ns with
  | nil => exact nofun
  | cons first rest =>
    rw [hfrom] at hsorted
    have hfirst := eq_or_lt_of_membersFrom hfrom
    refine List.forall_mem_cons.2 ⟨hfirst, fun n hn => .inr ?_⟩
    have hlt := (List.pairwise_cons.1 hsorted).1 n hn
    rcases hfirst with rfl | hfirst
    · exact hlt
    · exact Std.TransCmp.lt_trans hfirst hlt

/-- What is there on one side only in front of a key is gone through before the members
from this key on. -/
theorem Reports.extra_first {o : Option String} (hns : Sorted ns)
    (hms : ∀ m ∈ ms, m.1 = k ∨ compare k m.1 = .lt)
    (h : Reports path (MembersDiffer ms (membersFrom k ns)) o) :
    Reports path (MembersDiffer ms ns) ((extraMember path (membersBefore k ns)).or o) := by
  have hextra := reports_extraMember path
    (hns.sublist (List.takeWhile_sublist fun n => compare n.1 k == .lt))
  have hkeys : KeysBefore ([] ++ membersBefore k ns) (ms ++ membersFrom k ns) := by
    intro a ha b hb
    have hlt := lt_of_mem_membersBefore ha
    have hfrom : b.1 = k ∨ compare k b.1 = .lt := by
      rcases List.mem_append.1 hb with hb | hb
      · exact hms b hb
      · exact forall_mem_membersFrom hns b hb
    rcases hfrom with hk | hk
    · rwa [hk]
    · exact Std.TransCmp.lt_trans hlt hk
  have hall := hextra.members hkeys h
  rwa [List.nil_append, List.takeWhile_append_dropWhile] at hall

/-- One step through the members of two objects, given what is reported behind it. -/
theorem reports_memberDifference_cons (hms : Sorted ((k, x) :: ms)) (hns : Sorted ns)
    (hself : ∀ y, (k, y) ∈ ns →
      Reports (path ++ "." ++ k) (DiffersAt x y) (firstDifference (path ++ "." ++ k) x y))
    (hrest : ∀ ns', ns'.Sublist ns →
      Reports path (MembersDiffer ms ns') (memberDifference path ms ns')) :
    Reports path (MembersDiffer ((k, x) :: ms) ns) (memberDifference path ((k, x) :: ms) ns) := by
  have hbehind : ∀ m ∈ ms, compare k m.1 = .lt := (List.pairwise_cons.1 hms).1
  have hsorted : Sorted (membersFrom k ns) := hns.sublist (List.dropWhile_sublist _)
  have hsub : (membersFrom k ns).Sublist ns := List.dropWhile_sublist _
  -- a member that the other object lacks
  have hlacking : ∀ ns', ns'.Sublist ns → (∀ n ∈ ns', compare k n.1 = .lt) →
      Reports path (MembersDiffer ((k, x) :: ms) ns')
        ((differAt (path ++ "." ++ k) x .null).or (memberDifference path ms ns')) := by
    intro ns' hns' hlt
    refine Reports.first_key [(k, x)] [] (by simp)
      (List.forall_mem_append.2 ⟨hbehind, hlt⟩) ?_ (hrest ns' hns')
    rw [memberOrNull_cons_self]
    exact reports_differAt _ (not_lookedInto_null_right x)
  rw [memberDifference]
  refine Reports.extra_first hns
    (List.forall_mem_cons.2 ⟨.inl rfl, fun m hm => .inr (hbehind m hm)⟩) ?_
  split
  next l y ns' hfrom =>
    rw [show membersFrom k ns = (l, y) :: ns' from hfrom] at hsorted hsub ⊢
    have hns' := (List.pairwise_cons.1 hsorted).1
    split
    next heq =>
      subst heq
      refine Reports.first_key [(l, x)] [(l, y)] (by simp)
        (List.forall_mem_append.2 ⟨hbehind, hns'⟩) ?_
        (hrest ns' ((List.sublist_cons_self _ _).trans hsub))
      rw [memberOrNull_cons_self, memberOrNull_cons_self]
      exact hself y (hsub.subset List.mem_cons_self)
    next hne =>
      have hlt : compare k l = .lt := (eq_or_lt_of_membersFrom hfrom).resolve_left hne
      rw [hfrom]
      refine hlacking _ hsub (List.forall_mem_cons.2 ⟨hlt, fun n hn => ?_⟩)
      exact Std.TransCmp.lt_trans hlt (hns' n hn)
  next hfrom =>
    rw [show membersFrom k ns = [] from hfrom]
    exact hlacking [] (List.nil_sublist ns) nofun

end Members

mutual

/-- **What is reported of two values is their first difference.** -/
theorem reports_firstDifference : ∀ (path : String) {e p : Json}, e.Ordered → p.Ordered →
    Reports path (DiffersAt e p) (firstDifference path e p)
  | path, .object ms, .object ns, he, hp => by
    rw [firstDifference]
    exact (reports_memberDifference path he.members hp.members).congr fun _ _ => differsAt_objects
  | path, .array xs, .array ys, he, hp => by
    have hlength := Reports.here path (xs.length = ys.length) (.lengths xs.length ys.length)
    rw [firstDifference, lengthsText_eq]
    refine ((reports_itemDifference path 0 he.items hp.items).or hlength ?_).congr
      fun _ _ => differsAt_arrays
    rintro _ m _ m' ⟨n, _, _, rest, rfl, -⟩ ⟨rfl, -⟩
    exact .inside _ rest
  | path, .object _, .null, _, _ | path, .object _, .bool _, _, _
  | path, .object _, .number _, _, _ | path, .object _, .string _, _, _
  | path, .object _, .array _, _, _ | path, .array _, .null, _, _
  | path, .array _, .bool _, _, _ | path, .array _, .number _, _, _
  | path, .array _, .string _, _, _ | path, .array _, .object _, _, _
  | path, .null, _, _, _ | path, .bool _, _, _, _ | path, .number _, _, _, _
  | path, .string _, _, _, _ => by
    exact reports_firstDifference_of_not_lookedInto path nofun

theorem reports_itemDifference : ∀ (path : String) (i : Nat) {xs ys : List Json},
    (∀ x ∈ xs, x.Ordered) → (∀ y ∈ ys, y.Ordered) →
    Reports path (ItemsDiffer i xs ys) (itemDifference path i xs ys)
  | path, i, x :: xs, y :: ys, hxs, hys => by
    rw [List.forall_mem_cons] at hxs hys
    rw [itemDifference]
    exact (reports_firstDifference s!"{path}[{i}]" hxs.1 hys.1).items
      (reports_itemDifference path (i + 1) hxs.2 hys.2)
  | path, i, [], _, _, _ => by
    rw [itemDifference]
    · rintro _ m ⟨n, _, _, _, -, hx, -⟩
      simp at hx
    · simp
  | path, i, _ :: _, [], _, _ => by
    rw [itemDifference]
    · rintro _ m ⟨n, _, _, _, -, -, hy, -⟩
      simp at hy
    · simp

theorem reports_memberDifference : ∀ (path : String) {ms ns : List (String × Json)},
    (Sorted ms ∧ ∀ m ∈ ms, m.2.Ordered) → (Sorted ns ∧ ∀ n ∈ ns, n.2.Ordered) →
    Reports path (MembersDiffer ms ns) (memberDifference path ms ns)
  | path, [], ns, _, hns => by
    rw [memberDifference]
    exact reports_extraMember path hns.1
  | path, (k, x) :: ms, ns, hms, hns => by
    obtain ⟨hx, hmembers⟩ := List.forall_mem_cons.1 hms.2
    refine reports_memberDifference_cons hms.1 hns.1 (fun y hy => ?_) fun ns' hsub => ?_
    · exact reports_firstDifference (path ++ "." ++ k) hx (hns.2 _ hy)
    · exact reports_memberDifference path ⟨(List.pairwise_cons.1 hms.1).2, hmembers⟩
        ⟨hns.1.sublist hsub, fun n hn => hns.2 n (hsub.subset hn)⟩

end

section Report

variable (path : String) {text : String} {e p : Json}

/-- Nothing is reported exactly if there is no difference. -/
theorem firstDifference_eq_none_iff (he : e.Ordered) (hp : p.Ordered) :
    firstDifference path e p = none ↔ ∀ place m, ¬ DiffersAt e p place m :=
  (reports_firstDifference path he hp).eq_none_iff

/-- A text is reported exactly if it is that of the first difference. -/
theorem firstDifference_eq_some_iff (he : e.Ordered) (hp : p.Ordered) :
    firstDifference path e p = some text ↔
      ∃ place m, IsFirst (DiffersAt e p) place m ∧ text = pathText path place ++ m.text :=
  (reports_firstDifference path he hp).eq_some_iff

example : firstDifference "x" (array [ofNat 1, ofNat 2]) (array [ofNat 1]) =
    some "x: expected 2 entries, parsed 1" := by decide +kernel

end Report

end Json

end Dql
