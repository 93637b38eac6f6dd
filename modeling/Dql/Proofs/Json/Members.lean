import Dql.Proofs.Json.Record

/-!
# What a record is read from

A record that is read from an object takes in its members one by one. Each member either
names no field, or changes the record by what it holds, and then no other member may name the
same field (`Record.readMembers_cons_eq_ok`). All that is said of reading here follows from
this: each field that is given has a content that can be read, and is given once
(`Record.eq_of_mem_of_mem`), and the order of the members has no say (`Record.readMembers_perm`).

A list of field values is read as the object that gives them the first names of the fields
(`Record.read_eq_ok_iff`), so nothing has to be said of it apart.
-/

namespace Dql

/-- The name that a field is written under. -/
def Field.name {α : Type} (f : Field α) : String := f.names.headD ""

/-- The member that gives a field its content under this name. -/
def Field.member {α : Type} (f : Field α) (d : Document) : MemberKey × Document :=
  (⟨f.name, false⟩, d)

namespace Record

variable {α : Type} {r : Record α} {f g : Field α} {x y : α} {seen seen' : List Nat}

/-- How the content of a field changes a record. -/
def change (r : Record α) : Field α → Document → Except DecodeError (α → α)
  | .plain _ _ set, d => set d
  | .nested _ nullable set, d => (r.readNested nullable d).map set

/-- Two fields change different parts of a record, so that it does not matter which of them
does so first. -/
def Commute (r : Record α) (f g : Field α) : Prop :=
  ∀ (c d : Document) (a b : α → α), r.change f c = .ok a → r.change g d = .ok b →
    ∀ x, a (b x) = b (a x)

/-- What a record has to be like to be read in the same way from members in any order: each
field has a name, none shares one with another, and each changes a part of its own. -/
structure Lawful (r : Record α) : Prop where
  named : ∀ f ∈ r.fields, f.names ≠ []
  names : (r.fields.flatMap Field.names).Nodup
  commute : r.fields.Pairwise r.Commute

/-! ## Fields that change parts of their own -/

section Commuting

variable {β γ : Type} {names names' : List String} {required required' nullable : Bool}
  {rd : Reading β} {rd' : Reading γ} {set : β → α → α}

theorem commute_of {set' : γ → α → α} (h : ∀ v w x, set v (set' w x) = set' w (set v x)) :
    r.Commute (.plain names required fun d => (rd d).map set)
      (.plain names' required' fun d => (rd' d).map set') := by
  intro c d a b ha hb x
  obtain ⟨v, -, rfl⟩ := exists_of_map_eq_ok ha
  obtain ⟨w, -, rfl⟩ := exists_of_map_eq_ok hb
  exact h v w x

theorem commute_nested {set' : List α → α → α}
    (h : ∀ v xs x, set v (set' xs x) = set' xs (set v x)) :
    r.Commute (.plain names required fun d => (rd d).map set) (.nested names' nullable set') := by
  intro c d a b ha hb x
  obtain ⟨v, -, rfl⟩ := exists_of_map_eq_ok ha
  obtain ⟨xs, -, rfl⟩ := exists_of_map_eq_ok hb
  exact h v xs x

theorem nested_commute {set' : List α → α → α}
    (h : ∀ v xs x, set v (set' xs x) = set' xs (set v x)) :
    r.Commute (.nested names' nullable set') (.plain names required fun d => (rd d).map set) :=
  fun c d a b ha hb x => (commute_nested h d c b a hb ha x).symm

end Commuting

/-! ## Fields by their names -/

theorem exists_of_find? {name : String} {fields : List (Field α)} {i j : Nat}
    (h : find? name fields i = some (j, f)) :
    ∃ k, j = i + k ∧ fields[k]? = some f ∧ name ∈ f.names := by
  induction fields generalizing i with
  | nil => simp [find?] at h
  | cons g rest ih =>
    rw [find?] at h
    split at h
    next hname =>
      rw [Option.some.injEq, Prod.mk.injEq] at h
      obtain ⟨rfl, rfl⟩ := h
      exact ⟨0, rfl, rfl, by simpa using hname⟩
    next =>
      obtain ⟨k, rfl, hk, hname⟩ := ih h
      exact ⟨k + 1, by omega, hk, hname⟩

theorem Lawful.not_mem_names (hr : r.Lawful) {before after : List (Field α)}
    (hfields : r.fields = before ++ f :: after) {name : String} (hname : name ∈ f.names) :
    ∀ g ∈ before, name ∉ g.names := by
  intro g hg hmem
  have hnames := hr.names
  rw [hfields, List.flatMap_append, List.nodup_append] at hnames
  exact hnames.2.2 name (List.mem_flatMap.2 ⟨g, hg, hmem⟩) name
    (List.mem_flatMap.2 ⟨f, List.mem_cons_self, hname⟩) rfl

/-- A field is found by each of its names, always at the same place. -/
theorem Lawful.find?_eq (hr : r.Lawful) {i : Nat} (hf : r.fields[i]? = some f) {name : String}
    (hname : name ∈ f.names) : find? name r.fields 0 = some (i, f) := by
  obtain ⟨hi, rfl⟩ := List.getElem?_eq_some_iff.1 hf
  have hfields : r.fields = r.fields.take i ++ r.fields[i] :: r.fields.drop (i + 1) := by
    rw [← List.drop_eq_getElem_cons hi, List.take_append_drop]
  have hfind := find?_append (r.fields.drop (i + 1)) 0 hname (hr.not_mem_names hfields hname)
  rwa [← hfields, List.length_take_of_le (Nat.le_of_lt hi), Nat.zero_add] at hfind

theorem Lawful.name_mem (hr : r.Lawful) (hf : f ∈ r.fields) : f.name ∈ f.names := by
  obtain ⟨name, names, hnames⟩ := List.exists_cons_of_ne_nil (hr.named f hf)
  unfold Field.name
  rw [hnames]
  exact List.mem_cons_self

/-! ## Members one by one -/

theorem readMembers_cons {k : MemberKey} {d : Document} {rest : List (MemberKey × Document)} :
    r.readMembers x seen ((k, d) :: rest) =
      match find? k.text r.fields 0 with
      | none => r.readMembers x seen rest
      | some (i, f) =>
        if seen.contains i then .error .malformed
        else
          match r.change f d with
          | .error e => .error e
          | .ok a => r.readMembers (a x) (i :: seen) rest := by
  rw [readMembers]
  cases find? k.text r.fields 0 with
  | none => rfl
  | some p =>
    obtain ⟨i, f⟩ := p
    cases f with
    | plain names required set => rfl
    | nested names nullable set =>
      dsimp only [change]
      cases r.readNested nullable d <;> rfl

theorem readItems_cons {fields : List (Field α)} {d : Document} {rest : List Document} :
    r.readItems x seen (f :: fields) (d :: rest) =
      match r.change f d with
      | .error e => .error e
      | .ok a => r.readItems (a x) (seen.length :: seen) fields rest := by
  cases f with
  | plain names required set => rw [readItems]; rfl
  | nested names nullable set =>
    rw [readItems, change]
    cases r.readNested nullable d <;> rfl

/-- **What reading a member can do**: skip it, or change the record as the content of its field
says, if this field was not given before. -/
theorem readMembers_cons_eq_ok {k : MemberKey} {d : Document}
    {rest : List (MemberKey × Document)} :
    r.readMembers x seen ((k, d) :: rest) = .ok y ↔
      (find? k.text r.fields 0 = none ∧ r.readMembers x seen rest = .ok y) ∨
      ∃ i f a, find? k.text r.fields 0 = some (i, f) ∧ i ∉ seen ∧ r.change f d = .ok a ∧
        r.readMembers (a x) (i :: seen) rest = .ok y := by
  rw [readMembers_cons]
  cases find? k.text r.fields 0 with
  | none => simp
  | some p =>
    obtain ⟨i, f⟩ := p
    by_cases hseen : i ∈ seen
    · simp [hseen]
    · cases hchange : r.change f d <;> simp [and_assoc, hseen, hchange]

/-- What is read behind some members is read behind more of them. -/
theorem readMembers_append_of {ms ms' : List (MemberKey × Document)}
    (h : ∀ {x seen}, r.readMembers x seen ms = .ok y → r.readMembers x seen ms' = .ok y)
    (before : List (MemberKey × Document)) (hms : r.readMembers x seen (before ++ ms) = .ok y) :
    r.readMembers x seen (before ++ ms') = .ok y := by
  induction before generalizing x seen with
  | nil => exact h hms
  | cons m before ih =>
    rcases readMembers_cons_eq_ok.1 hms with ⟨hfind, hrest⟩ | ⟨i, f, a, hfind, hseen, ha, hrest⟩
    · exact readMembers_cons_eq_ok.2 (.inl ⟨hfind, ih hrest⟩)
    · exact readMembers_cons_eq_ok.2 (.inr ⟨i, f, a, hfind, hseen, ha, ih hrest⟩)

/-! ## Each field once -/

/-- Members behind others are read with more fields given. -/
theorem exists_readMembers_behind {before ms : List (MemberKey × Document)}
    (h : r.readMembers x seen (before ++ ms) = .ok y) :
    ∃ x' seen', (∀ i ∈ seen, i ∈ seen') ∧ r.readMembers x' seen' ms = .ok y := by
  induction before generalizing x seen with
  | nil => exact ⟨x, seen, fun _ hi => hi, h⟩
  | cons m before ih =>
    rcases readMembers_cons_eq_ok.1 h with ⟨-, hrest⟩ | ⟨i, f, a, -, -, -, hrest⟩
    · exact ih hrest
    · obtain ⟨x', seen', hseen, h'⟩ := ih hrest
      exact ⟨x', seen', fun j hj => hseen j (List.mem_cons_of_mem _ hj), h'⟩

section Given

variable {ms : List (MemberKey × Document)} {m n : MemberKey × Document} {i : Nat}

/-- A member of a field changes the record, and is the only one to do so from there on. -/
theorem exists_change_of_cons (h : r.readMembers x seen (m :: ms) = .ok y)
    (hfind : find? m.1.text r.fields 0 = some (i, f)) :
    ∃ a, i ∉ seen ∧ r.change f m.2 = .ok a ∧ r.readMembers (a x) (i :: seen) ms = .ok y := by
  rcases readMembers_cons_eq_ok.1 h with ⟨hnone, -⟩ | ⟨j, g, a, hsome, hseen, ha, hrest⟩
  · rw [hfind] at hnone
    simp at hnone
  · rw [hfind, Option.some.injEq, Prod.mk.injEq] at hsome
    obtain ⟨rfl, rfl⟩ := hsome
    exact ⟨a, hseen, ha, hrest⟩

/-- **A field that is given** was not given before, and has a content that can be read. -/
theorem exists_change_of_mem (h : r.readMembers x seen ms = .ok y) (hm : m ∈ ms)
    (hfind : find? m.1.text r.fields 0 = some (i, f)) :
    ∃ a, i ∉ seen ∧ r.change f m.2 = .ok a := by
  obtain ⟨before, after, rfl⟩ := List.append_of_mem hm
  obtain ⟨x', seen', hseen, h'⟩ := exists_readMembers_behind h
  obtain ⟨a, hi, ha, -⟩ := exists_change_of_cons h' hfind
  exact ⟨a, fun hmem => hi (hseen i hmem), ha⟩

theorem not_mem_behind (h : r.readMembers x seen (m :: ms) = .ok y)
    (hm : find? m.1.text r.fields 0 = some (i, f))
    (hn : find? n.1.text r.fields 0 = some (i, f)) : n ∉ ms := by
  intro hmem
  obtain ⟨a, -, -, hrest⟩ := exists_change_of_cons h hm
  obtain ⟨-, hseen, -⟩ := exists_change_of_mem hrest hmem hn
  exact hseen List.mem_cons_self

/-- **A field is given once**: two members with names of one field are one member. -/
theorem eq_of_mem_of_mem (h : r.readMembers x seen ms = .ok y) (hm : m ∈ ms) (hn : n ∈ ms)
    (hfind : find? m.1.text r.fields 0 = some (i, f))
    (hfind' : find? n.1.text r.fields 0 = some (i, f)) : m = n := by
  obtain ⟨before, after, rfl⟩ := List.append_of_mem hm
  rcases List.mem_append.1 hn with hbefore | hn
  · -- the other member stands in front of this one
    obtain ⟨front, between, rfl⟩ := List.append_of_mem hbefore
    rw [List.append_assoc] at h
    obtain ⟨_, _, -, h'⟩ := exists_readMembers_behind h
    exact absurd (by simp) (not_mem_behind (n := m) h' hfind' hfind)
  · rcases List.mem_cons.1 hn with rfl | hafter
    · rfl
    · obtain ⟨_, _, -, h'⟩ := exists_readMembers_behind h
      exact absurd hafter (not_mem_behind h' hfind hfind')

end Given

/-! ## Members in any order -/

theorem complete_congr (h : ∀ i, i ∈ seen ↔ i ∈ seen') (fields : List (Field α)) (i : Nat) :
    complete seen fields i = complete seen' fields i := by
  induction fields generalizing i with
  | nil => rfl
  | cons f rest ih =>
    have hcontains : seen.contains i = seen'.contains i := by
      rw [Bool.eq_iff_iff, List.contains_iff_mem, List.contains_iff_mem, h i]
    rw [complete, complete, ih, hcontains]

/-- It only matters which fields were given, not in which order. -/
theorem readMembers_congr_seen {ms : List (MemberKey × Document)} (h : ∀ i, i ∈ seen ↔ i ∈ seen')
    (hms : r.readMembers x seen ms = .ok y) : r.readMembers x seen' ms = .ok y := by
  induction ms generalizing x seen seen' with
  | nil =>
    rw [readMembers, finish] at hms ⊢
    rwa [← complete_congr h]
  | cons m rest ih =>
    rcases readMembers_cons_eq_ok.1 hms with ⟨hfind, hrest⟩ | ⟨i, f, a, hfind, hseen, ha, hrest⟩
    · exact readMembers_cons_eq_ok.2 (.inl ⟨hfind, ih h hrest⟩)
    · refine readMembers_cons_eq_ok.2 (.inr ⟨i, f, a, hfind, fun hi => hseen ((h i).2 hi), ha,
        ih (fun j => ?_) hrest⟩)
      rw [List.mem_cons, List.mem_cons, h j]

theorem Lawful.change_comm (hr : r.Lawful) {i j : Nat} (hf : r.fields[i]? = some f)
    (hg : r.fields[j]? = some g) (hne : i ≠ j) {c d : Document} {a b : α → α}
    (ha : r.change f c = .ok a) (hb : r.change g d = .ok b) (x : α) : a (b x) = b (a x) := by
  obtain ⟨hi, rfl⟩ := List.getElem?_eq_some_iff.1 hf
  obtain ⟨hj, rfl⟩ := List.getElem?_eq_some_iff.1 hg
  rcases Nat.lt_or_gt_of_ne hne with hlt | hgt
  · exact List.pairwise_iff_getElem.1 hr.commute i j hi hj hlt c d a b ha hb x
  · exact (List.pairwise_iff_getElem.1 hr.commute j i hj hi hgt d c b a hb ha x).symm

theorem readMembers_swap (hr : r.Lawful) {m n : MemberKey × Document}
    {rest : List (MemberKey × Document)} (h : r.readMembers x seen (m :: n :: rest) = .ok y) :
    r.readMembers x seen (n :: m :: rest) = .ok y := by
  rcases readMembers_cons_eq_ok.1 h with ⟨hm, h⟩ | ⟨i, f, a, hm, hi, ha, h⟩
  · rcases readMembers_cons_eq_ok.1 h with ⟨hn, h⟩ | ⟨j, g, b, hn, hj, hb, h⟩
    · exact readMembers_cons_eq_ok.2 (.inl ⟨hn, readMembers_cons_eq_ok.2 (.inl ⟨hm, h⟩)⟩)
    · exact readMembers_cons_eq_ok.2 (.inr ⟨j, g, b, hn, hj, hb,
        readMembers_cons_eq_ok.2 (.inl ⟨hm, h⟩)⟩)
  · rcases readMembers_cons_eq_ok.1 h with ⟨hn, h⟩ | ⟨j, g, b, hn, hj, hb, h⟩
    · exact readMembers_cons_eq_ok.2 (.inl ⟨hn,
        readMembers_cons_eq_ok.2 (.inr ⟨i, f, a, hm, hi, ha, h⟩)⟩)
    · -- two fields, neither of them given before
      rw [List.mem_cons, not_or] at hj
      obtain ⟨p, hp, hf, -⟩ := exists_of_find? hm
      obtain ⟨q, hq, hg, -⟩ := exists_of_find? hn
      rw [Nat.zero_add] at hp hq
      subst hp hq
      rw [hr.change_comm hg hf hj.1 hb ha] at h
      refine readMembers_cons_eq_ok.2 (.inr ⟨_, g, b, hn, hj.2, hb,
        readMembers_cons_eq_ok.2 (.inr ⟨_, f, a, hm, ?_, ha, readMembers_congr_seen ?_ h⟩)⟩)
      · rw [List.mem_cons, not_or]
        exact ⟨Ne.symm hj.1, hi⟩
      · intro i
        rw [List.mem_cons, List.mem_cons, List.mem_cons, List.mem_cons]
        exact or_left_comm

/-- **The order of the members has no say.** -/
theorem readMembers_perm (hr : r.Lawful) {ms ms' : List (MemberKey × Document)} (h : ms.Perm ms')
    (hms : r.readMembers x seen ms = .ok y) : r.readMembers x seen ms' = .ok y := by
  induction h generalizing x seen with
  | nil => exact hms
  | cons m _ ih => exact readMembers_append_of ih [m] hms
  | swap m n rest => exact readMembers_swap hr hms
  | trans _ _ ih ih' => exact ih' (ih hms)

/-! ## Lists of field values -/

/-- The members that a record is read from: the values of a list stand under the first names of
the fields. -/
def members (r : Record α) : Document → List (MemberKey × Document)
  | .object ms => ms
  | .array ds => r.fields.zipWith Field.member ds
  | _ => []

/-- What has the form of a record: an object, or a list no longer than the fields. -/
def Fits (r : Record α) : Document → Prop
  | .object _ => True
  | .array ds => ds.length ≤ r.fields.length
  | _ => False

theorem readItems_eq_readMembers (hr : r.Lawful) {before fields : List (Field α)}
    (hfields : r.fields = before ++ fields) (hlast : seen.length = before.length)
    (hseen : ∀ i ∈ seen, i < before.length) {ds : List Document}
    (hds : ds.length ≤ fields.length) :
    r.readItems x seen fields ds = r.readMembers x seen (fields.zipWith Field.member ds) := by
  induction ds generalizing before fields x seen with
  | nil => rw [List.zipWith_nil_right, readItems, readMembers]
  | cons d ds ih =>
    cases fields with
    | nil => simp at hds
    | cons f fields =>
      have hf : r.fields[before.length]? = some f := by simp [hfields]
      have hfind := hr.find?_eq hf (hr.name_mem (List.mem_of_getElem? hf))
      -- only fields in front of this one were given
      have hnew : ¬ seen.contains before.length = true := by
        rw [List.contains_iff_mem]
        exact fun hmem => Nat.lt_irrefl _ (hseen _ hmem)
      rw [List.zipWith_cons_cons, readItems_cons, Field.member, readMembers_cons, hfind]
      dsimp only
      rw [if_neg hnew, hlast]
      cases r.change f d with
      | error e => rfl
      | ok a =>
        have hmoved : r.fields = (before ++ [f]) ++ fields := by simp [hfields]
        refine ih hmoved (by simp [hlast]) ?_ (by simpa using hds)
        intro i hi
        rw [List.length_append, List.length_singleton]
        rcases List.mem_cons.1 hi with rfl | hi
        · exact Nat.lt_succ_self _
        · exact Nat.lt_succ_of_lt (hseen i hi)

theorem length_le_of_readItems {fields : List (Field α)} {ds : List Document}
    (h : r.readItems x seen fields ds = .ok y) : ds.length ≤ fields.length := by
  induction ds generalizing fields x seen with
  | nil => exact Nat.zero_le _
  | cons d ds ih =>
    cases fields with
    | nil => simp [readItems] at h
    | cons f fields =>
      rw [readItems_cons] at h
      cases ha : r.change f d with
      | error e => rw [ha] at h; simp at h
      | ok a =>
        rw [ha] at h
        exact Nat.succ_le_succ (ih h)

/-- **A record is read from its members**, whether they are given under names or as a list. -/
theorem read_eq_ok_iff (hr : r.Lawful) {d : Document} :
    r.read d = .ok x ↔ r.Fits d ∧ r.readMembers r.initial [] (r.members d) = .ok x := by
  cases d with
  | object ms => simp [read, Fits, members]
  | array ds =>
    rw [read]
    by_cases hds : ds.length ≤ r.fields.length
    · have hfields : r.fields = [] ++ r.fields := rfl
      rw [readItems_eq_readMembers hr hfields rfl (by simp) hds]
      simp [Fits, members, hds]
    · exact iff_of_false (fun h => hds (length_le_of_readItems h)) fun h => hds h.1
  | null | bool | number | string | unreadable => simp [read, Fits]

end Record

end Dql
