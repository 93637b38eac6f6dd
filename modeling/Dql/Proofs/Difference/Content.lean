import Dql.Parsed.Codec
import Dql.Proofs.Difference.Nulls

/-!
# What is compared of a written value

Before two values are compared their members are sorted, and neither the members that are
`null` nor the signs of zeros count. What is left of a value is its content; two written
values are without a difference exactly if their contents are equal.

The lemmas here say what the content of a written value tells. Lists tell their items
(`content_list_iff`), tables their entries (`content_table_iff`), and a record the content
of every field (`content_record_iff`): for this a member that is left out is read as one that
is there and `null`, so that the same fields stand beside each other on both sides.
-/

namespace Dql

theorem map_eq_map_iff_of_mem {α β γ : Type} {f : α → β} {g : α → γ} {xs ys : List α}
    (h : ∀ x ∈ xs, ∀ y ∈ ys, (f x = f y ↔ g x = g y)) :
    xs.map f = ys.map f ↔ xs.map g = ys.map g := by
  rw [← List.forall₂_eq_eq_eq, ← List.forall₂_eq_eq_eq, List.forall₂_map_left_iff,
    List.forall₂_map_right_iff, List.forall₂_map_left_iff, List.forall₂_map_right_iff]
  exact forall₂_iff_of_mem h

namespace Json

theorem ordered_sortKeys (j : Json) : j.sortKeys.Ordered :=
  Document.ordered_of_value? (value?_document j)

/-- What is compared of a value. -/
def content (j : Json) : Json := j.sortKeys.essence

theorem content_eq_null_iff {j : Json} : j.content = null ↔ j.isNull = true := by
  unfold content
  rw [essence_eq_null_iff]
  cases j <;> simp [sortKeys, isNull]

theorem content_ne_null {j : Json} (h : j.isNull = false) : j.content ≠ null := by
  rw [Ne, content_eq_null_iff, h]
  decide

theorem content_array (xs : List Json) : (array xs).content = array (xs.map content) := by
  unfold content
  rw [sortKeys, essence_array, sortItems_eq_map, List.map_map]
  rfl

theorem content_objects_iff {ms ns : List (String × Json)} (hms : (ms.map Prod.fst).Nodup)
    (hns : (ns.map Prod.fst).Nodup) :
    (object ms).content = (object ns).content ↔
      ∀ key, (memberOrNull key ms).content = (memberOrNull key ns).content := by
  have hmember : ∀ {ms : List (String × Json)}, (ms.map Prod.fst).Nodup → ∀ key,
      memberOrNull key (SortedEntries.ofList (sortMembers ms)) =
        (memberOrNull key ms).sortKeys := by
    intro ms h key
    have hkeys : (ms.map fun m => (m.1, m.2.sortKeys)).map Prod.fst = ms.map Prod.fst := by
      rw [List.map_map]
      rfl
    rw [← memberOrNull_map (f := sortKeys) rfl, sortMembers_eq_map]
    unfold memberOrNull member?
    rw [SortedEntries.find?_ofList (hkeys ▸ h)]
  unfold content
  rw [sortKeys, sortKeys,
    essence_objects_iff (SortedEntries.sorted_ofList _) (SortedEntries.sorted_ofList _)]
  refine forall_congr' fun key => ?_
  rw [hmember hms, hmember hns]

/-! ## Records -/

theorem forall_memberOrNull_iff {fs gs : List (String × Json)}
    (hkeys : fs.map Prod.fst = gs.map Prod.fst) (hnodup : (fs.map Prod.fst).Nodup) :
    (∀ key, (memberOrNull key fs).content = (memberOrNull key gs).content) ↔
      (fs.map fun f => f.2.content) = gs.map fun g => g.2.content := by
  induction fs generalizing gs with
  | nil =>
    rw [List.map_nil, eq_comm, List.map_eq_nil_iff] at hkeys
    subst hkeys
    exact iff_of_true (fun _ => rfl) rfl
  | cons f fs ih =>
    obtain ⟨k, x⟩ := f
    cases gs with
    | nil => simp at hkeys
    | cons g gs =>
      obtain ⟨l, y⟩ := g
      obtain ⟨hkl, hbehind⟩ := List.cons.inj hkeys
      obtain rfl : k = l := hkl
      obtain ⟨hk, hnodup⟩ := List.nodup_cons.1 hnodup
      have hnone : ∀ {fs : List (String × Json)}, k ∉ fs.map Prod.fst → memberOrNull k fs = null :=
        fun h => memberOrNull_of_ne fun m hm heq => h (List.mem_map.2 ⟨m, hm, heq⟩)
      have hrest := ih hbehind hnodup
      rw [List.map_cons, List.map_cons, List.cons.injEq, ← hrest]
      constructor
      · intro h
        refine ⟨?_, fun key => ?_⟩
        · have hself := h k
          rwa [memberOrNull_cons_self, memberOrNull_cons_self] at hself
        · by_cases hkey : k = key
          · subst hkey
            rw [hnone hk, hnone (hbehind ▸ hk)]
          · have hother := h key
            rwa [memberOrNull_cons_of_ne hkey, memberOrNull_cons_of_ne hkey] at hother
      · rintro ⟨hxy, h⟩ key
        by_cases hkey : k = key
        · subst hkey
          rwa [memberOrNull_cons_self, memberOrNull_cons_self]
        · rw [memberOrNull_cons_of_ne hkey, memberOrNull_cons_of_ne hkey]
          exact h key

/-- **The content of a record** is that of its fields, where a field that is left out stands
for `null`. -/
theorem content_record_iff (fs gs : List (String × Json))
    (hkeys : fs.map Prod.fst = gs.map Prod.fst) (hnodup : (fs.map Prod.fst).Nodup) :
    (object (present fs)).content = (object (present gs)).content ↔
      (fs.map fun f => f.2.content) = gs.map fun g => g.2.content := by
  have hpresent : ∀ {fs : List (String × Json)}, (fs.map Prod.fst).Nodup →
      ((present fs).map Prod.fst).Nodup := fun h => h.sublist (List.filter_sublist.map _)
  have hnodup' : (gs.map Prod.fst).Nodup := hkeys ▸ hnodup
  rw [content_objects_iff (hpresent hnodup) (hpresent hnodup'),
    ← forall_memberOrNull_iff hkeys hnodup]
  simp only [memberOrNull_present hnodup, memberOrNull_present hnodup']

/-! ## Fields -/

/-- A value, or `null` in its place. -/
def nullIf (p : Prop) [Decidable p] (j : Json) : Json := if p then null else j

theorem present_singleton (key : String) (p : Prop) [Decidable p] {j : Json}
    (h : j.isNull = false) : (if p then [] else [(key, j)]) = present [(key, nullIf p j)] := by
  unfold nullIf present
  split
  · rfl
  · rw [List.filter_cons, h]
    rfl

theorem present_value (key : String) (j : Json) :
    (if j.isNull then [] else [(key, j)]) = present [(key, j)] := by
  unfold present
  rw [List.filter_cons]
  cases j.isNull <;> rfl

theorem present_append (fs gs : List (String × Json)) :
    present (fs ++ gs) = present fs ++ present gs := List.filter_append fs gs

/-- Where `null` stands for what would not be there on both sides alike, it hides nothing. -/
theorem content_nullIf_iff {p q R : Prop} [Decidable p] [Decidable q] {j k : Json}
    (hj : j.isNull = false) (hk : k.isNull = false) (hR : j.content = k.content ↔ R)
    (hnull : p → q → R) (hsame : R → (p ↔ q)) :
    (nullIf p j).content = (nullIf q k).content ↔ R := by
  unfold nullIf
  by_cases hp : p
  · rw [if_pos hp]
    by_cases hq : q
    · rw [if_pos hq]
      exact iff_of_true rfl (hnull hp hq)
    · rw [if_neg hq]
      exact iff_of_false (content_ne_null hk).symm fun hr => hq ((hsame hr).1 hp)
  · rw [if_neg hp]
    by_cases hq : q
    · rw [if_pos hq]
      exact iff_of_false (content_ne_null hj) fun hr => hp ((hsame hr).2 hq)
    · rw [if_neg hq]
      exact hR

/-- A text, or `null` for the empty one. -/
def textOrNull (s : String) : Json := nullIf s.isEmpty (string s)

/-- A flag, or `null` if it is down. -/
def flagOrNull (b : Bool) : Json := nullIf (b = false) (bool true)

/-- A list of values, or `null` for the empty one. -/
def listOrNull (xs : List Json) : Json := nullIf xs.isEmpty (array xs)

theorem textMember_eq_present (key s : String) :
    textMember key s = present [(key, textOrNull s)] :=
  present_singleton key (s.isEmpty = true) rfl

theorem flagMember_eq_present (key : String) (b : Bool) :
    flagMember key b = present [(key, flagOrNull b)] := by
  cases b <;> rfl

theorem listMember_eq_present (key : String) (xs : List Json) :
    listMember key xs = present [(key, listOrNull xs)] :=
  present_singleton key (xs.isEmpty = true) rfl

theorem optionMember_eq_present {α : Type} (key : String) (o : Option α) {write : α → Json}
    (h : ∀ x, (write x).isNull = false) :
    optionMember key o write = present [(key, orNull write o)] := by
  cases o with
  | none => rfl
  | some x =>
    unfold optionMember orNull present
    rw [List.filter_cons, h x]
    rfl

theorem content_text_iff {s t : String} :
    (textOrNull s).content = (textOrNull t).content ↔ s = t := by
  refine content_nullIf_iff rfl rfl ⟨string.inj, congrArg string⟩ (fun hs ht => ?_) fun h => by
    rw [h]
  rw [String.isEmpty_iff.1 hs, String.isEmpty_iff.1 ht]

theorem content_flag_iff {a b : Bool} :
    (flagOrNull a).content = (flagOrNull b).content ↔ a = b := by
  cases a <;> cases b <;> first | exact iff_of_true rfl rfl | exact iff_of_false nofun nofun

/-- The content of a list is that of its items. -/
theorem content_list_iff {xs ys : List Json} :
    (listOrNull xs).content = (listOrNull ys).content ↔ xs.map content = ys.map content := by
  refine content_nullIf_iff rfl rfl ?_ (fun hxs hys => ?_) fun h => ?_
  · rw [content_array, content_array, array.injEq]
  · rw [List.isEmpty_iff.1 hxs, List.isEmpty_iff.1 hys]
  · rw [List.isEmpty_iff, List.isEmpty_iff, ← List.map_eq_nil_iff (f := content), h,
      List.map_eq_nil_iff]

theorem content_list_map_iff {α β : Type} {write : α → Json} {g : α → β} {xs ys : List α}
    (h : ∀ x ∈ xs, ∀ y ∈ ys, ((write x).content = (write y).content ↔ g x = g y)) :
    (listOrNull (xs.map write)).content = (listOrNull (ys.map write)).content ↔
      xs.map g = ys.map g := by
  rw [content_list_iff, List.map_map, List.map_map]
  exact map_eq_map_iff_of_mem h

/-- A list is told by its content if its items are. -/
theorem content_list_eq_iff {α : Type} {write : α → Json}
    (h : ∀ x y, (write x).content = (write y).content ↔ x = y) {xs ys : List α} :
    (listOrNull (xs.map write)).content = (listOrNull (ys.map write)).content ↔ xs = ys := by
  rw [content_list_map_iff (g := id) fun x _ y _ => h x y, List.map_id, List.map_id]

/-- The content of what may be missing is that of what is there. -/
theorem content_option_iff {α : Type} {write : α → Json} (h : ∀ x, (write x).isNull = false)
    {o p : Option α} :
    (orNull write o).content = (orNull write p).content ↔
      (o.map fun x => (write x).content) = p.map fun x => (write x).content := by
  cases o with
  | none =>
    cases p with
    | none => exact iff_of_true rfl rfl
    | some y => exact iff_of_false (content_ne_null (h y)).symm nofun
  | some x =>
    cases p with
    | none => exact iff_of_false (content_ne_null (h x)) nofun
    | some y => exact Option.some_inj.symm

/-- What may be missing is told by its content if what is there is. -/
theorem content_option_eq_iff {α : Type} {write : α → Json} (hwrite : ∀ x, (write x).isNull = false)
    (h : ∀ x y, (write x).content = (write y).content ↔ x = y) {o p : Option α} :
    (orNull write o).content = (orNull write p).content ↔ o = p := by
  have hinj : Function.Injective fun x => (write x).content := fun x y => (h x y).1
  rw [content_option_iff hwrite]
  exact (Option.map_injective hinj).eq_iff

/-! ## Tables -/

section Table

variable {κ ν : Type} [Ord κ] [Std.LawfulEqOrd κ]

/-- A table as an object. -/
def ofTable (name : κ → String) (write : ν → Json) (t : Table κ ν) : Json :=
  object (t.entries.map fun e => (name e.1, write e.2))

/-- A table as an object, or `null` for the empty one. -/
def tableOrNull (name : κ → String) (write : ν → Json) (t : Table κ ν) : Json :=
  nullIf t.isEmpty (ofTable name write t)

variable {name : κ → String} {write : ν → Json}

theorem memberOrNull_table (hname : Function.Injective name) (t : Table κ ν)
    (key : κ) :
    memberOrNull (name key) (t.entries.map fun e => (name e.1, write e.2)) =
      orNull write (t.find? key) := by
  unfold Table.find?
  induction t.entries with
  | nil => rfl
  | cons e rest ih =>
    rw [List.map_cons]
    by_cases hk : e.1 = key
    · subst hk
      rw [memberOrNull_cons_self, SortedEntries.find?_cons_self]
      rfl
    · rw [memberOrNull_cons_of_ne (fun heq => hk (hname heq)), ih,
        SortedEntries.find?_cons_of_ne hk]

theorem nodup_names (hname : Function.Injective name) (t : Table κ ν) :
    ((t.entries.map fun e => (name e.1, write e.2)).map Prod.fst).Nodup := by
  have hkeys := SortedEntries.nodup_keys t.sorted
  unfold List.Nodup at hkeys ⊢
  rw [List.pairwise_map] at hkeys
  rw [List.map_map, List.pairwise_map]
  exact hkeys.imp fun hne heq => hne (hname heq)

theorem content_ofTable_iff [Std.TransOrd κ] (hname : Function.Injective name)
    (hwrite : ∀ v, (write v).isNull = false) {s t : Table κ ν} :
    (ofTable name write s).content = (ofTable name write t).content ↔
      (s.map fun _ v => (write v).content) = t.map fun _ v => (write v).content := by
  unfold ofTable
  rw [content_objects_iff (nodup_names hname s) (nodup_names hname t)]
  constructor
  · intro h
    refine Table.ext_entries (SortedEntries.ext (Table.sorted _) (Table.sorted _) fun key => ?_)
    have hkey := h (name key)
    rw [memberOrNull_table hname, memberOrNull_table hname, content_option_iff hwrite,
      ← Table.find?_map, ← Table.find?_map] at hkey
    exact hkey
  · intro h k
    by_cases hk : ∃ key, name key = k
    · obtain ⟨key, rfl⟩ := hk
      rw [memberOrNull_table hname, memberOrNull_table hname, content_option_iff hwrite,
        ← Table.find?_map, ← Table.find?_map, h]
    · have hnone : ∀ t : Table κ ν,
          memberOrNull k (t.entries.map fun e => (name e.1, write e.2)) = null := by
        refine fun t => memberOrNull_of_ne fun m hm heq => hk ?_
        obtain ⟨e, -, rfl⟩ := List.mem_map.1 hm
        exact ⟨e.1, heq⟩
      rw [hnone s, hnone t]

/-- The content of a table is that of its entries. -/
theorem content_table_iff [Std.TransOrd κ] (hname : Function.Injective name)
    (hwrite : ∀ v, (write v).isNull = false) {s t : Table κ ν} :
    (tableOrNull name write s).content = (tableOrNull name write t).content ↔
      (s.map fun _ v => (write v).content) = t.map fun _ v => (write v).content := by
  refine content_nullIf_iff rfl rfl (content_ofTable_iff hname hwrite) (fun hs ht => ?_) fun h => ?_
  · rw [Table.eq_empty_of_isEmpty hs, Table.eq_empty_of_isEmpty ht]
  · have hentries := congrArg (fun t => t.entries.isEmpty) h
    simp only [Table.entries_map, List.isEmpty_map] at hentries
    unfold Table.isEmpty
    rw [hentries]

end Table

theorem content_texts_iff {s t : Table String String} :
    (tableOrNull id string s).content = (tableOrNull id string t).content ↔ s = t := by
  rw [content_table_iff Function.injective_id fun _ => rfl]
  exact (Table.map_injective fun _ _ => string.inj).eq_iff

theorem textsMember_eq_present (key : String) (t : Table String String) :
    textsMember key t = present [(key, tableOrNull id string t)] :=
  present_singleton key (t.isEmpty = true) rfl

end Json

end Dql
