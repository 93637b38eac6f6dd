import Dql.Proofs.Json.Record
import Dql.Proofs.Uid

/-!
# Values are read back

Each way to read a value is set beside the way in which the value is written: what is
written is read as what it was written for. A JSON value that is carried along is read
with the members of its objects in the order of their keys, so it is read back if they
were in that order already; and they are, once it has been read (`Json.Ordered`).

The last part puts the two together for the fields of a record, each of them left out
when it is empty: `Record.Writes` has one lemma for each kind of member.
-/

namespace Dql

/-! ## Values with ordered members -/

/-- The members of all objects in a value are in the order of their keys, each key once. -/
def Json.Ordered (j : Json) : Prop := j.sortKeys = j

namespace Json

theorem eq_null_of_isNull {j : Json} (h : j.isNull = true) : j = .null := by
  cases j <;> first | rfl | simp [isNull] at h

theorem sortItems_eq_map (xs : List Json) : sortItems xs = xs.map sortKeys := by
  induction xs with
  | nil => rfl
  | cons x rest ih => rw [sortItems, ih, List.map_cons]

theorem sortMembers_eq_map (ms : List (String × Json)) :
    sortMembers ms = ms.map fun m => (m.1, m.2.sortKeys) := by
  induction ms with
  | nil => rfl
  | cons m rest ih => rw [sortMembers, ih, List.map_cons]

theorem ordered_array {xs : List Json} (h : ∀ x ∈ xs, x.Ordered) : (array xs).Ordered := by
  unfold Ordered
  rw [sortKeys, sortItems_eq_map, List.map_congr_left fun x hx => h x hx, List.map_id']

theorem document_ne_null {j : Json} (h : j ≠ .null) : j.document ≠ .null := by
  cases j <;> first | exact absurd rfl h | simp [document]

theorem ordered_object {ms : List (String × Json)} (hsorted : SortedEntries.Sorted ms)
    (h : ∀ m ∈ ms, m.2.Ordered) : (object ms).Ordered := by
  have hmap : (ms.map fun m => (m.1, m.2.sortKeys)) = ms := by
    refine (List.map_congr_left fun m hm => ?_).trans (List.map_id ms)
    exact congrArg (Prod.mk m.1) (h m hm)
  unfold Ordered
  rw [sortKeys, sortMembers_eq_map, hmap, SortedEntries.ofList_eq_self hsorted]

end Json

namespace Document

mutual

/-- The value of a document lists the members of its objects in the order of their keys. -/
theorem ordered_of_value? : ∀ {d : Document} {j : Json}, d.value? = some j → j.Ordered
  | .null, _, h | .bool _, _, h | .number _, _, h | .string _, _, h => by
    rw [value?] at h
    obtain rfl := Option.some.inj h
    rfl
  | .array items, _, h => by
    rw [value?] at h
    obtain ⟨xs, hxs, rfl⟩ := Option.map_eq_some_iff.1 h
    exact Json.ordered_array (ordered_of_itemValues? hxs)
  | .object members, _, h => by
    rw [value?] at h
    obtain ⟨ms, hms, rfl⟩ := Option.map_eq_some_iff.1 h
    refine Json.ordered_object (SortedEntries.sorted_ofList ms) fun m hm => ?_
    exact ordered_of_memberValues? hms m (SortedEntries.mem_of_mem_ofList hm)
  | .unreadable, _, h => by simp [value?] at h

theorem ordered_of_itemValues? : ∀ {ds : List Document} {xs : List Json},
    itemValues? ds = some xs → ∀ x ∈ xs, x.Ordered
  | [], _, h => by
    rw [itemValues?] at h
    obtain rfl := Option.some.inj h
    exact fun x hx => absurd hx List.not_mem_nil
  | d :: rest, _, h => by
    rw [itemValues?] at h
    obtain ⟨x, hx, h⟩ := Option.bind_eq_some_iff.1 h
    obtain ⟨xs, hxs, h⟩ := Option.bind_eq_some_iff.1 h
    obtain rfl := Option.some.inj h
    exact List.forall_mem_cons.2 ⟨ordered_of_value? hx, ordered_of_itemValues? hxs⟩

theorem ordered_of_memberValues? : ∀ {ds : List (MemberKey × Document)}
    {ms : List (String × Json)}, memberValues? ds = some ms → ∀ m ∈ ms, m.2.Ordered
  | [], _, h => by
    rw [memberValues?] at h
    obtain rfl := Option.some.inj h
    exact fun m hm => absurd hm List.not_mem_nil
  | (k, d) :: rest, _, h => by
    rw [memberValues?] at h
    obtain ⟨x, hx, h⟩ := Option.bind_eq_some_iff.1 h
    obtain ⟨ms, hms, h⟩ := Option.bind_eq_some_iff.1 h
    obtain rfl := Option.some.inj h
    exact List.forall_mem_cons.2 ⟨ordered_of_value? hx, ordered_of_memberValues? hms⟩

end

end Document

theorem Document.eq_null_of_value? {d : Document} (h : d.value? = some .null) : d = .null := by
  cases d <;> first | rfl | simp [Document.value?] at h

/-! ## What is known of values that were read -/

namespace Reading

variable {β : Type} {r : Reading β} {Q : β → Prop}

theorem ordered_of_value {d : Document} {j : Json} (h : value d = .ok j) : j.Ordered := by
  unfold value at h
  cases hd : d.value? with
  | none => rw [hd] at h; simp at h
  | some x =>
    rw [hd] at h
    obtain rfl := Except.ok.inj h
    exact Document.ordered_of_value? hd

/-- What is read is `null` only if the document says so. -/
theorem eq_null_of_value {d : Document} (h : value d = .ok .null) : d = .null := by
  unfold value at h
  cases hd : d.value? with
  | none => rw [hd] at h; simp at h
  | some j =>
    rw [hd] at h
    obtain rfl := Except.ok.inj h
    exact Document.eq_null_of_value? hd

theorem items_cons_eq_ok {d : Document} {ds : List Document} {xs : List β} :
    items r (d :: ds) = .ok xs ↔
      ∃ x more, r d = .ok x ∧ items r ds = .ok more ∧ xs = x :: more := by
  rw [items]
  cases r d with
  | error e => simp
  | ok x => cases items r ds <;> simp [Except.map, eq_comm]

section Known

variable (hr : ∀ d x, r d = .ok x → Q x)

include hr

theorem of_items {ds : List Document} {xs : List β} (h : items r ds = .ok xs) :
    ∀ x ∈ xs, Q x := by
  induction ds generalizing xs with
  | nil =>
    obtain rfl := Except.ok.inj h
    exact fun x hx => absurd hx List.not_mem_nil
  | cons d rest ih =>
    rw [items] at h
    cases hd : r d with
    | error e => rw [hd] at h; simp at h
    | ok x =>
      rw [hd] at h
      obtain ⟨more, hmore, rfl⟩ := exists_of_map_eq_ok h
      exact List.forall_mem_cons.2 ⟨hr d x hd, ih hmore⟩

theorem of_list {d : Document} {xs : List β} (h : list r d = .ok xs) : ∀ x ∈ xs, Q x := by
  unfold list at h
  split at h
  · exact of_items hr h
  · simp at h

theorem of_optional {d : Document} {x : Option β} (h : optional r d = .ok x) :
    ∀ y, x = some y → Q y := by
  unfold optional at h
  split at h
  · obtain rfl := Except.ok.inj h
    exact fun y hy => absurd hy (by simp)
  · obtain ⟨y, hy, rfl⟩ := exists_of_map_eq_ok h
    intro z hz
    obtain rfl := Option.some.inj hz
    exact hr _ y hy

theorem of_members {κ : Type} {key : MemberKey → Option κ} {ms : List (MemberKey × Document)}
    {es : List (κ × β)} (h : members key r ms = .ok es) : ∀ e ∈ es, Q e.2 := by
  induction ms generalizing es with
  | nil =>
    obtain rfl := Except.ok.inj h
    exact fun e he => absurd he List.not_mem_nil
  | cons m rest ih =>
    obtain ⟨k, d⟩ := m
    rw [members] at h
    cases hk : key k with
    | none => rw [hk] at h; simp at h
    | some k =>
      rw [hk] at h
      dsimp only at h
      cases hd : r d with
      | error e => rw [hd] at h; simp at h
      | ok x =>
        rw [hd] at h
        obtain ⟨more, hmore, rfl⟩ := exists_of_map_eq_ok h
        exact List.forall_mem_cons.2 ⟨hr d x hd, ih hmore⟩

theorem of_table {κ : Type} [Ord κ] [Std.TransOrd κ] [Std.LawfulEqOrd κ]
    {key : MemberKey → Option κ} {d : Document} {t : Table κ β} (h : table key r d = .ok t) :
    ∀ e ∈ t.entries, Q e.2 := by
  unfold table at h
  split at h
  · obtain ⟨es, hes, rfl⟩ := exists_of_map_eq_ok h
    exact fun e he => of_members hr hes e (SortedEntries.mem_of_mem_ofList he)
  · simp at h

end Known

theorem of_orNull {d : Document} {x y : β} (hr : ∀ d x, r d = .ok x → Q x) (hnull : Q y)
    (h : orNull r y d = .ok x) : Q x := by
  unfold orNull at h
  split at h
  · exact Except.ok.inj h ▸ hnull
  · exact hr d x h

/-! ## What is written is read back -/

theorem text_string (s : String) : text (Json.string s).document = .ok s := rfl

theorem flag_bool (b : Bool) : flag (Json.bool b).document = .ok b := rfl

theorem uid_ofUid (u : Uid) : uid (Json.ofUid u).document = .ok u := by
  have hsize : ((u.toNat : Int).toNat : Nat) < UInt64.size := u.toNat_lt
  show (if 0 ≤ (u.toNat : Int) ∧ ((u.toNat : Int).toNat : Nat) < UInt64.size then
    Except.ok (UInt64.ofNat (u.toNat : Int).toNat) else .error DecodeError.malformed) = .ok u
  rw [if_pos ⟨Int.natCast_nonneg _, hsize⟩, Int.toNat_natCast, UInt64.ofNat_toNat]

theorem int32_ofInt32 (n : Int32) : int32 (Json.ofInt32 n).document = .ok n := by
  show (if Int32.minValue.toInt ≤ n.toInt ∧ n.toInt ≤ Int32.maxValue.toInt then
    Except.ok (Int32.ofInt n.toInt) else .error DecodeError.malformed) = .ok n
  rw [if_pos ⟨Int32.minValue_le_toInt n, Int32.toInt_le n⟩, Int32.ofInt_toInt]

theorem kind_ofNat (k : VariableKind) : kind (Json.ofNat k.code).document = .ok k := by
  cases k <;> rfl

theorem value_document {j : Json} (h : j.Ordered) : value j.document = .ok j := by
  unfold value
  rw [value?_document, h]

theorem items_itemDocuments {write : β → Json} {xs : List β}
    (h : ∀ x ∈ xs, r (write x).document = .ok x) :
    items r (Json.itemDocuments (xs.map write)) = .ok xs := by
  induction xs with
  | nil => rfl
  | cons x rest ih =>
    rw [List.forall_mem_cons] at h
    rw [List.map_cons, Json.itemDocuments, items, h.1, ih h.2]
    rfl

theorem list_array {write : β → Json} {xs : List β} (h : ∀ x ∈ xs, r (write x).document = .ok x) :
    list r (Json.array (xs.map write)).document = .ok xs := items_itemDocuments h

theorem optional_of_ne_null {d : Document} {x : β} (hd : d ≠ .null) (h : r d = .ok x) :
    optional r d = .ok (some x) := by
  unfold optional
  split
  · exact absurd rfl hd
  · rw [h]
    rfl

/-- No record is written as `null`, so one that is read is not taken for none. -/
theorem optional_read {α : Type} {r : Record α} {d : Document} {x : α} (h : r.read d = .ok x) :
    optional r.read d = .ok (some x) := by
  refine optional_of_ne_null ?_ h
  rintro rfl
  simp [Record.read] at h

theorem members_memberDocuments {κ : Type} {key : MemberKey → Option κ} {name : κ → String}
    {write : β → Json} {es : List (κ × β)} (hkey : ∀ e ∈ es, key ⟨name e.1, false⟩ = some e.1)
    (h : ∀ e ∈ es, r (write e.2).document = .ok e.2) :
    members key r (Json.memberDocuments (es.map fun e => (name e.1, write e.2))) = .ok es := by
  induction es with
  | nil => rfl
  | cons e rest ih =>
    rw [List.forall_mem_cons] at hkey h
    rw [List.map_cons, Json.memberDocuments, members, hkey.1]
    dsimp only
    rw [h.1, ih hkey.2 h.2]
    rfl

/-- A table is written in the order of its keys, so reading it binds them in this order. -/
theorem table_object {κ : Type} [Ord κ] [Std.TransOrd κ] [Std.LawfulEqOrd κ]
    {key : MemberKey → Option κ} (name : κ → String) (write : β → Json) {t : Table κ β}
    (hkey : ∀ k, key ⟨name k, false⟩ = some k)
    (h : ∀ e ∈ t.entries, r (write e.2).document = .ok e.2) :
    table key r (Json.object (t.entries.map fun e => (name e.1, write e.2))).document = .ok t := by
  show (members key r (Json.memberDocuments (t.entries.map fun e => (name e.1, write e.2)))).map
    Table.ofList = .ok t
  rw [members_memberDocuments (fun e _ => hkey e.1) h]
  exact congrArg Except.ok (Table.ext_entries (SortedEntries.ofList_eq_self t.sorted))

theorem texts_ofTexts (t : Table String String) : texts (Json.ofTexts t).document = .ok t :=
  table_object id Json.string (fun _ => rfl) fun _ _ => rfl

theorem uidKey_of_isDigit {c : Char} {rest : List Char} (hzero : c = '0' → rest = [])
    (hdigit : c.isDigit = true) :
    uidKey ⟨String.ofList (c :: rest), false⟩ = Uid.ofDecimal? (String.ofList (c :: rest)) := by
  unfold uidKey
  rw [String.toList_ofList]
  split
  next hescaped => exact absurd hescaped (by simp)
  next hnil => exact absurd hnil (by simp)
  next heq =>
    rw [List.cons.injEq] at heq
    rw [hzero heq.1] at heq
    exact absurd heq.2 (by simp)
  next heq =>
    rw [List.cons.injEq] at heq
    rw [← heq.1, ← heq.2, if_pos hdigit]

/-- The decimal digits of an identifier are the key that is read as this identifier. -/
theorem uidKey_uidKey (u : Uid) : uidKey ⟨Json.uidKey u, false⟩ = some u := by
  have hread := Uid.ofDecimal?_toDigits u
  unfold Json.uidKey
  cases hdigits : Nat.toDigits 10 u.toNat with
  | nil => exact absurd hdigits (Uid.toDigits_ne_nil _)
  | cons c rest =>
    rw [hdigits] at hread
    have hdigit : c.isDigit = true := Uid.isDigit_of_mem_toDigits (by rw [hdigits]; simp)
    refine (uidKey_of_isDigit (fun hc => ?_) hdigit).trans hread
    -- a zero stands in front of zero only, which has no other digit
    rcases Nat.eq_zero_or_pos u.toNat with hu | hu
    · rw [hu] at hdigits
      exact (List.cons.inj hdigits).2.symm
    · refine absurd ?_ (Uid.head?_toDigits_ne_zero hu)
      rw [hdigits, hc]
      rfl

end Reading

/-! ## Written fields -/

namespace Record.Writes

variable {α β : Type} {r : Record α} {key : String} {names : List String} {rd : Reading β}
  {set : β → α → α} {x : α}

/-- A field that is always written. -/
theorem always {required : Bool} {j : Json} {v : β} (h : rd j.document = .ok v) :
    Writes r (.plain (key :: names) required fun d => (rd d).map set) [(key, j)] x (set v x) := by
  refine Writes.plain (j := j) (f := set v) ?_
  rw [h]
  rfl

/-- The records nested in a record, as a list. -/
theorem nestedAlways {nullable : Bool} {set : List α → α → α} {write : α → Json} {xs : List α}
    (h : ∀ y ∈ xs, r.read (write y).document = .ok y) :
    Writes r (.nested (key :: names) nullable set) [(key, .array (xs.map write))] x (set xs x) := by
  refine .nested ?_
  rw [Record.readAll_eq_items]
  exact Reading.items_itemDocuments h

/-- A field that is written unless its value is the one that the record has anyway. -/
theorem orAbsent {p : Prop} [Decidable p] {j : Json} {v : β} (hset : p → set v x = x)
    (h : ¬ p → rd j.document = .ok v) :
    Writes r (.of (key :: names) rd set) (if p then [] else [(key, j)]) x (set v x) := by
  split
  next hp =>
    rw [hset hp]
    exact .omitted rfl
  next hp => exact always (h hp)

theorem text {set : String → α → α} {v : String} (hset : set "" x = x) :
    Writes r (.of (key :: names) .text set) (Json.textMember key v) x (set v x) := by
  refine orAbsent (fun hv => ?_) fun _ => rfl
  rw [String.isEmpty_iff.1 hv, hset]

theorem flag {set : Bool → α → α} {v : Bool} (hset : set false x = x) :
    Writes r (.of (key :: names) .flag set) (Json.flagMember key v) x (set v x) := by
  unfold Json.flagMember
  cases v with
  | false =>
    rw [hset]
    exact .omitted rfl
  | true => exact always rfl

theorem list {set : List β → α → α} {write : β → Json} {vs : List β} (hset : set [] x = x)
    (h : ∀ v ∈ vs, rd (write v).document = .ok v) :
    Writes r (.of (key :: names) (.list rd) set) (Json.listMember key (vs.map write)) x
      (set vs x) := by
  refine orAbsent (fun hvs => ?_) fun _ => Reading.list_array h
  rw [List.isEmpty_iff, List.map_eq_nil_iff] at hvs
  rw [hvs, hset]

theorem option {set : Option β → α → α} {write : β → Json} {v : Option β} (hset : set none x = x)
    (h : ∀ y, v = some y → rd.optional (write y).document = .ok (some y)) :
    Writes r (.of (key :: names) (.optional rd) set) (Json.optionMember key v write) x
      (set v x) := by
  unfold Json.optionMember
  cases v with
  | none =>
    rw [hset]
    exact .omitted rfl
  | some y => exact always (h y rfl)

theorem texts {set : Table String String → α → α} {t : Table String String}
    (hset : set .empty x = x) :
    Writes r (.of (key :: names) .texts set) (Json.textsMember key t) x (set t x) := by
  refine orAbsent (fun ht => ?_) fun _ => Reading.texts_ofTexts t
  rw [Table.eq_empty_of_isEmpty ht, hset]

/-- The records nested in a record, as a list unless there is none. -/
theorem nestedList {nullable : Bool} {set : List α → α → α} {write : α → Json} {xs : List α}
    (hset : set [] x = x) (h : ∀ y ∈ xs, r.read (write y).document = .ok y) :
    Writes r (.nested (key :: names) nullable set) (Json.listMember key (xs.map write)) x
      (set xs x) := by
  unfold Json.listMember
  split
  next hxs =>
    rw [List.isEmpty_iff, List.map_eq_nil_iff] at hxs
    rw [hxs, hset]
    exact .omitted rfl
  next => exact nestedAlways h

end Record.Writes

end Dql
