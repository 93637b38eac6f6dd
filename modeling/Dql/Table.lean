/-!
# Tables

A table binds keys to values, each key once, and lists its entries in the order
of the keys. Two tables are equal exactly when their entries are: the order in
which bindings were made leaves no trace, and a key bound again keeps the last
value only.

`SortedEntries` holds the operations on plain lists of entries, for values that
keep their members in a list; `Table` adds the proof that the list is sorted.
-/

namespace Dql

namespace SortedEntries

variable {κ : Type} {ν : Type} [Ord κ]

/-- The keys of a list of entries increase strictly. -/
def Sorted (entries : List (κ × ν)) : Prop :=
  entries.Pairwise fun a b => compare a.1 b.1 = .lt

/-- Binds a key, in its place in the order; a value it had before is replaced. -/
def insert (key : κ) (value : ν) : List (κ × ν) → List (κ × ν)
  | [] => [(key, value)]
  | (k, v) :: rest =>
    match compare key k with
    | .lt => (key, value) :: (k, v) :: rest
    | .eq => (key, value) :: rest
    | .gt => (k, v) :: insert key value rest

/-- The value of a key. -/
def find? (key : κ) : List (κ × ν) → Option ν
  | [] => none
  | (k, v) :: rest => if compare key k = .eq then some v else find? key rest

/-- Binds the entries of a list one after the other. -/
def ofList (entries : List (κ × ν)) : List (κ × ν) :=
  entries.foldl (fun acc e => insert e.1 e.2 acc) []

theorem mem_insert {key : κ} {value : ν} {entries : List (κ × ν)} {e : κ × ν}
    (h : e ∈ insert key value entries) : e = (key, value) ∨ e ∈ entries := by
  fun_induction insert key value entries with
  | case1 => simpa using h
  | case2 => simpa using h
  | case3 k v rest _ =>
    rcases List.mem_cons.1 h with h | h
    · exact .inl h
    · exact .inr (List.mem_cons_of_mem _ h)
  | case4 k v rest _ ih =>
    rcases List.mem_cons.1 h with h | h
    · exact .inr (h ▸ List.mem_cons_self)
    · exact (ih h).imp id (List.mem_cons_of_mem _)

/-- Binding a key keeps the entries sorted. -/
theorem sorted_insert [Std.TransOrd κ] [Std.LawfulEqOrd κ] {key : κ} {value : ν}
    {entries : List (κ × ν)} (h : Sorted entries) : Sorted (insert key value entries) := by
  fun_induction insert key value entries with
  | case1 => exact List.pairwise_singleton _ _
  | case2 k v rest hc =>
    refine List.pairwise_cons.2 ⟨fun e he => ?_, h⟩
    rcases List.mem_cons.1 he with rfl | he
    · exact hc
    · exact Std.TransCmp.lt_trans hc ((List.pairwise_cons.1 h).1 e he)
  | case3 k v rest hc =>
    have hk : key = k := Std.LawfulEqCmp.eq_of_compare hc
    subst hk
    exact List.pairwise_cons.2 ⟨(List.pairwise_cons.1 h).1, (List.pairwise_cons.1 h).2⟩
  | case4 k v rest hc ih =>
    have ⟨hhead, htail⟩ := List.pairwise_cons.1 h
    refine List.pairwise_cons.2 ⟨fun e he => ?_, ih htail⟩
    rcases mem_insert he with rfl | he
    · exact Std.OrientedCmp.gt_iff_lt.1 hc
    · exact hhead e he

theorem sorted_foldl_insert [Std.TransOrd κ] [Std.LawfulEqOrd κ] (new : List (κ × ν))
    {entries : List (κ × ν)} (h : Sorted entries) :
    Sorted (new.foldl (fun acc e => insert e.1 e.2 acc) entries) := by
  induction new generalizing entries with
  | nil => exact h
  | cons e rest ih => exact ih (sorted_insert h)

/-- Entries bound one after the other come out sorted. -/
theorem sorted_ofList [Std.TransOrd κ] [Std.LawfulEqOrd κ] (entries : List (κ × ν)) :
    Sorted (ofList entries) :=
  sorted_foldl_insert entries List.Pairwise.nil

/-- What was just bound is found. -/
theorem find?_insert_self [Std.TransOrd κ] [Std.LawfulEqOrd κ] (key : κ) (value : ν)
    (entries : List (κ × ν)) : find? key (insert key value entries) = some value := by
  fun_induction insert key value entries with
  | case1 => simp [find?]
  | case2 => simp [find?]
  | case3 => simp [find?]
  | case4 k v rest hc ih => simp [find?, hc, ih]

/-- Binding a key leaves the others as they were. -/
theorem find?_insert_of_ne [Std.TransOrd κ] [Std.LawfulEqOrd κ] {key other : κ}
    (hne : other ≠ key) (value : ν) (entries : List (κ × ν)) :
    find? other (insert key value entries) = find? other entries := by
  have hother : compare other key ≠ .eq := fun h => hne (Std.LawfulEqCmp.eq_of_compare h)
  fun_induction insert key value entries with
  | case1 => simp [find?, hother]
  | case2 => simp [find?, hother]
  | case3 k v rest hc =>
    have hk : key = k := Std.LawfulEqCmp.eq_of_compare hc
    subst hk
    simp [find?, hother]
  | case4 k v rest hc ih => simp [find?, ih]

/-- Entries bound one after the other are found in the result only if they were bound. -/
theorem mem_foldl_insert {new entries : List (κ × ν)} {e : κ × ν}
    (h : e ∈ new.foldl (fun acc e => insert e.1 e.2 acc) entries) : e ∈ new ∨ e ∈ entries := by
  induction new generalizing entries with
  | nil => exact .inr h
  | cons first rest ih =>
    rcases ih h with h | h
    · exact .inl (List.mem_cons_of_mem _ h)
    · rcases mem_insert h with rfl | h
      · exact .inl List.mem_cons_self
      · exact .inr h

theorem mem_of_mem_ofList {entries : List (κ × ν)} {e : κ × ν} (h : e ∈ ofList entries) :
    e ∈ entries :=
  (mem_foldl_insert h).resolve_right List.not_mem_nil

/-- A key that comes behind all others is bound at the end. -/
theorem insert_eq_append [Std.OrientedOrd κ] {key : κ} {value : ν} {entries : List (κ × ν)}
    (h : ∀ e ∈ entries, compare e.1 key = .lt) :
    insert key value entries = entries ++ [(key, value)] := by
  induction entries with
  | nil => rfl
  | cons e rest ih =>
    have hgt : compare key e.1 = .gt :=
      Std.OrientedCmp.gt_iff_lt.2 (h e List.mem_cons_self)
    rw [insert, hgt]
    dsimp only
    rw [ih fun x hx => h x (List.mem_cons_of_mem _ hx), List.cons_append]

theorem foldl_insert_eq_append [Std.OrientedOrd κ] {new entries : List (κ × ν)}
    (h : Sorted (entries ++ new)) :
    new.foldl (fun acc e => insert e.1 e.2 acc) entries = entries ++ new := by
  induction new generalizing entries with
  | nil => rw [List.foldl_nil, List.append_nil]
  | cons e rest ih =>
    have hbehind : ∀ x ∈ entries, compare x.1 e.1 = .lt := fun x hx =>
      (List.pairwise_append.1 h).2.2 x hx e List.mem_cons_self
    have hmoved : entries ++ e :: rest = (entries ++ [e]) ++ rest := by simp
    rw [List.foldl_cons, insert_eq_append hbehind, hmoved]
    exact ih (hmoved ▸ h)

/-- Sorted entries bound one after the other are themselves. -/
theorem ofList_eq_self [Std.OrientedOrd κ] {entries : List (κ × ν)} (h : Sorted entries) :
    ofList entries = entries := by
  have hnil : Sorted ([] ++ entries) := by rwa [List.nil_append]
  exact foldl_insert_eq_append hnil

theorem mem_of_find? [Std.LawfulEqOrd κ] {key : κ} {value : ν} {entries : List (κ × ν)}
    (h : find? key entries = some value) : (key, value) ∈ entries := by
  induction entries with
  | nil => simp [find?] at h
  | cons e rest ih =>
    rw [find?] at h
    by_cases hk : compare key e.1 = .eq
    · rw [if_pos hk] at h
      obtain rfl := Option.some.inj h
      obtain rfl := Std.LawfulEqCmp.eq_of_compare hk
      exact List.mem_cons_self
    · rw [if_neg hk] at h
      exact List.mem_cons_of_mem _ (ih h)

theorem find?_map {μ : Type} (f : ν → μ) (key : κ) (entries : List (κ × ν)) :
    find? key (entries.map fun e => (e.1, f e.2)) = (find? key entries).map f := by
  induction entries with
  | nil => rfl
  | cons e rest ih =>
    rw [List.map_cons, find?, find?]
    by_cases hk : compare key e.1 = .eq
    · rw [if_pos hk, if_pos hk, Option.map_some]
    · rw [if_neg hk, if_neg hk, ih]

/-- An entry of sorted entries is found under its key. -/
theorem find?_of_mem [Std.TransOrd κ] [Std.LawfulEqOrd κ] {entries : List (κ × ν)}
    (hsorted : Sorted entries) {e : κ × ν} (h : e ∈ entries) : find? e.1 entries = some e.2 := by
  induction entries with
  | nil => exact absurd h List.not_mem_nil
  | cons first rest ih =>
    obtain ⟨hfirst, hrest⟩ := List.pairwise_cons.1 hsorted
    have hself : compare e.1 e.1 = .eq := Std.ReflCmp.compare_self
    rw [find?]
    rcases List.mem_cons.1 h with rfl | h
    · rw [if_pos hself]
    · have hlt : compare first.1 e.1 = .lt := hfirst e h
      rw [if_neg, ih hrest h]
      intro heq
      rw [← Std.LawfulEqCmp.eq_of_compare heq, hself] at hlt
      exact absurd hlt (by decide)

end SortedEntries

/-- A finite map whose entries are listed in the order of the keys. -/
structure Table (κ ν : Type) [Ord κ] where
  /-- The bindings. -/
  entries : List (κ × ν)
  /-- The keys increase strictly. -/
  sorted : SortedEntries.Sorted entries
deriving DecidableEq

namespace Table

variable {κ : Type} {ν : Type} [Ord κ]

/-- The table without entries. -/
def empty : Table κ ν := ⟨[], List.Pairwise.nil⟩

instance : Inhabited (Table κ ν) := ⟨empty⟩

instance : EmptyCollection (Table κ ν) := ⟨empty⟩

/-- Tables with the same entries are equal. -/
theorem ext_entries {s t : Table κ ν} (h : s.entries = t.entries) : s = t := by
  cases s; cases t; cases h; rfl

/-- Whether there is no entry. -/
def isEmpty (t : Table κ ν) : Bool := t.entries.isEmpty

theorem eq_empty_of_isEmpty {t : Table κ ν} (h : t.isEmpty = true) : t = empty :=
  ext_entries (List.isEmpty_iff.1 h)

/-- The values, in the order of their keys. -/
def values (t : Table κ ν) : List ν := t.entries.map (·.2)

/-- The value of a key. -/
def find? (t : Table κ ν) (key : κ) : Option ν := SortedEntries.find? key t.entries

/-- Whether a key is bound. -/
def contains (t : Table κ ν) (key : κ) : Bool := (t.find? key).isSome

/-- Binds the entries of a list one after the other, the last of a key winning. -/
def ofList [Std.TransOrd κ] [Std.LawfulEqOrd κ] (entries : List (κ × ν)) : Table κ ν :=
  ⟨SortedEntries.ofList entries, SortedEntries.sorted_ofList entries⟩

/-- The table with each value replaced, the keys kept. -/
def map {μ : Type} (f : κ → ν → μ) (t : Table κ ν) : Table κ μ :=
  ⟨t.entries.map fun e => (e.1, f e.1 e.2), by
    have h := t.sorted
    unfold SortedEntries.Sorted at h ⊢
    rw [List.pairwise_map]
    exact h⟩

@[simp] theorem entries_map {μ : Type} (f : κ → ν → μ) (t : Table κ ν) :
    (t.map f).entries = t.entries.map fun e => (e.1, f e.1 e.2) := rfl

theorem find?_of_mem [Std.TransOrd κ] [Std.LawfulEqOrd κ] {t : Table κ ν} {e : κ × ν}
    (h : e ∈ t.entries) : t.find? e.1 = some e.2 :=
  SortedEntries.find?_of_mem t.sorted h

/-- The value of a key is one that was bound to it. -/
theorem mem_of_find?_ofList [Std.TransOrd κ] [Std.LawfulEqOrd κ] {entries : List (κ × ν)}
    {key : κ} {value : ν} (h : (ofList entries).find? key = some value) :
    (key, value) ∈ entries :=
  SortedEntries.mem_of_mem_ofList (SortedEntries.mem_of_find? h)

/-- Replacing values whatever their keys replaces the value of each key. -/
theorem find?_map {μ : Type} (f : ν → μ) (t : Table κ ν) (key : κ) :
    (t.map fun _ v => f v).find? key = (t.find? key).map f :=
  SortedEntries.find?_map f key t.entries

end Table

end Dql
