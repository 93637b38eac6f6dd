import Dql.Proofs.Json.Members
import Dql.Proofs.Json.Reading
import Mathlib.Data.List.Forall2

/-!
# Parts of a record

Each part of a record is set by one field, and the other fields leave it alone
(`Record.Decides`). So what a record that was read holds in this part is what the content of
its field says, or what it was in the initial record if the field is not given
(`Record.part_of_read`). Nested records are read from the items that their field lists
(`Record.items_of_read`), and a value of any form is the one that stands in the document
(`Record.value_of_read`, `Record.optional_value_of_read`).
-/

namespace Dql

theorem Reading.value_eq_ok_iff {d : Document} {j : Json} :
    Reading.value d = .ok j ↔ d.value? = some j := by
  unfold Reading.value
  cases d.value? <;> simp

theorem Reading.of_optional_eq_some {β : Type} {rd : Reading β} {d : Document} {x : β}
    (h : optional rd d = .ok (some x)) : rd d = .ok x := by
  unfold optional at h
  split at h
  · simp at h
  · obtain ⟨y, hy, heq⟩ := exists_of_map_eq_ok h
    rwa [← Option.some.inj heq]

/-- What is read from a list is related to it item by item. -/
theorem Reading.forall₂_of_items {β : Type} {rd : Reading β} {rel : Document → β → Prop}
    {ds : List Document} {xs : List β} (h : items rd ds = .ok xs)
    (hrel : ∀ x ∈ xs, ∀ d, rd d = .ok x → rel d x) : List.Forall₂ rel ds xs := by
  induction ds generalizing xs with
  | nil =>
    obtain rfl := Except.ok.inj h
    exact .nil
  | cons d ds ih =>
    obtain ⟨x, more, hx, hmore, rfl⟩ := items_cons_eq_ok.1 h
    rw [List.forall_mem_cons] at hrel
    exact .cons (hrel.1 d hx) (ih hmore hrel.2)

namespace Record

variable {α : Type} {r : Record α} {f : Field α} {x y : α} {seen : List Nat}

/-- The content of the first member with one of the names. -/
def content? (r : Record α) (names : List String) (d : Document) : Option Document :=
  ((r.members d).find? fun m => names.contains m.1.text).map Prod.snd

/-- The value that a field of any form is given; `null` if it is not given. -/
def valueAt (r : Record α) (names : List String) (d : Document) : Json :=
  ((r.content? names d).bind Document.value?).getD .null

/-- What is listed in a field; nothing if it is not given. -/
def itemsAt (r : Record α) (names : List String) (d : Document) : List Document :=
  match r.content? names d with
  | some (.array ds) => ds
  | _ => []

/-- A field leaves a part of a record as it was. -/
def Leaves {β : Type} (r : Record α) (f : Field α) (part : α → β) : Prop :=
  ∀ (c : Document) (a : α → α), r.change f c = .ok a → ∀ x, part (a x) = part x

/-- A field alone has a say in a part of the record: its content says what the part is, and the
other fields leave it as it was. -/
structure Decides {β : Type} (r : Record α) (f : Field α) (part : α → β)
    (tells : Document → β → Prop) : Prop where
  mem : f ∈ r.fields
  own : ∀ {c a}, r.change f c = .ok a → ∀ x, tells c (part (a x))
  others : ∀ g ∈ r.fields, g = f ∨ r.Leaves g part

section Parts

variable {β γ : Type} {part : α → β} {tells : Document → β → Prop} {names : List String}
  {required nullable : Bool}

theorem leaves_of {rd : Reading γ} {set : γ → α → α} (h : ∀ v x, part (set v x) = part x) :
    r.Leaves (.plain names required fun d => (rd d).map set) part := by
  intro c a ha x
  obtain ⟨v, -, rfl⟩ := exists_of_map_eq_ok ha
  exact h v x

theorem leaves_nested {set : List α → α → α} (h : ∀ xs x, part (set xs x) = part x) :
    r.Leaves (.nested names nullable set) part := by
  intro c a ha x
  obtain ⟨xs, -, rfl⟩ := exists_of_map_eq_ok ha
  exact h xs x

/-- The part that a field sets is what its content is read as. -/
theorem decides_of {rd : Reading β} {set : β → α → α} (hf : .of names rd set ∈ r.fields)
    (h : ∀ v x, part (set v x) = v)
    (hothers : ∀ g ∈ r.fields, g = .of names rd set ∨ r.Leaves g part) :
    r.Decides (.of names rd set) part fun c v => rd c = .ok v where
  mem := hf
  own ha x := by
    obtain ⟨v, hv, rfl⟩ := exists_of_map_eq_ok ha
    rw [h, hv]
  others := hothers

/-- The records nested in a field are what the items of its content are read as. -/
theorem decides_nested {part : α → List α} {set : List α → α → α}
    (hf : .nested names nullable set ∈ r.fields) (h : ∀ xs x, part (set xs x) = xs)
    (hothers : ∀ g ∈ r.fields, g = .nested names nullable set ∨ r.Leaves g part) :
    r.Decides (.nested names nullable set) part fun c xs => r.readNested nullable c = .ok xs where
  mem := hf
  own ha x := by
    obtain ⟨xs, hxs, rfl⟩ := exists_of_map_eq_ok ha
    rw [h, hxs]
  others := hothers

theorem part_of_readMembers (hr : r.Lawful) (hf : r.Decides f part tells)
    {ms : List (MemberKey × Document)} (h : r.readMembers x seen ms = .ok y) :
    (∀ m, ms.find? (fun m => f.names.contains m.1.text) = some m → tells m.2 (part y)) ∧
      (ms.find? (fun m => f.names.contains m.1.text) = none → part y = part x) := by
  obtain ⟨i, hi⟩ := List.getElem?_of_mem hf.mem
  induction ms generalizing x seen with
  | nil =>
    rw [readMembers] at h
    exact ⟨fun m hm => absurd hm (by simp), fun _ => by rw [of_finish h]⟩
  | cons m rest ih =>
    by_cases hm : f.names.contains m.1.text = true
    · -- the one member of the field
      have hfind := hr.find?_eq hi (List.contains_iff_mem.1 hm)
      obtain ⟨a, -, ha, hrest⟩ := exists_change_of_cons h hfind
      have hnone : rest.find? (fun m => f.names.contains m.1.text) = none := by
        refine List.find?_eq_none.2 fun n hn hcontains => ?_
        exact not_mem_behind h hfind (hr.find?_eq hi (List.contains_iff_mem.1 hcontains)) hn
      simp only [List.find?_cons, hm]
      refine ⟨fun n hn => ?_, fun hn => absurd hn (by simp)⟩
      obtain rfl := Option.some.inj hn
      rw [(ih hrest).2 hnone]
      exact hf.own ha x
    · simp only [List.find?_cons, hm]
      rcases readMembers_cons_eq_ok.1 h with ⟨-, hrest⟩ | ⟨j, g, a, hfind, -, ha, hrest⟩
      · exact ih hrest
      · obtain ⟨k, -, hg, hname⟩ := exists_of_find? hfind
        rcases hf.others g (List.mem_of_getElem? hg) with rfl | hother
        · exact absurd (List.contains_iff_mem.2 hname) hm
        · rw [← hother m.2 a ha x]
          exact ih hrest

/-- **A part of a record** is what the content of its field says, or what it was from the start
if the field is not given. -/
theorem part_of_read (hr : r.Lawful) (hf : r.Decides f part tells) {d : Document}
    (h : r.read d = .ok x) :
    (∀ c, r.content? f.names d = some c → tells c (part x)) ∧
      (r.content? f.names d = none → part x = part r.initial) := by
  obtain ⟨hgiven, habsent⟩ := part_of_readMembers hr hf ((read_eq_ok_iff hr).1 h).2
  unfold content?
  constructor
  · intro c hc
    obtain ⟨m, hm, rfl⟩ := Option.map_eq_some_iff.1 hc
    exact hgiven m hm
  · intro hnone
    exact habsent (Option.map_eq_none_iff.1 hnone)

/-- **The records nested in a record** are read from what is listed in their field. -/
theorem items_of_read {part : α → List α} (hr : r.Lawful)
    (hf : r.Decides f part fun c xs => r.readNested nullable c = .ok xs)
    (hinitial : part r.initial = []) {d : Document} (h : r.read d = .ok x) :
    Reading.items r.read (r.itemsAt f.names d) = .ok (part x) := by
  obtain ⟨hgiven, habsent⟩ := part_of_read hr hf h
  unfold itemsAt
  cases hc : r.content? f.names d with
  | none => rw [habsent hc, hinitial]; rfl
  | some c =>
    have hread := hgiven c hc
    cases c with
    | array ds => rwa [readNested, readAll_eq_items] at hread
    | null =>
      rw [readNested] at hread
      split at hread
      · exact hread
      · simp at hread
    | bool | number | string | object | unreadable => simp [readNested] at hread

/-- A value of any form in a record is the one that its field is given. -/
theorem value_of_read {part : α → Json} (hr : r.Lawful)
    (hf : r.Decides f part fun c v => Reading.value c = .ok v) (hinitial : part r.initial = .null)
    {d : Document} (h : r.read d = .ok x) : part x = r.valueAt f.names d := by
  obtain ⟨hgiven, habsent⟩ := part_of_read hr hf h
  unfold valueAt
  cases hc : r.content? f.names d with
  | none => exact (habsent hc).trans hinitial
  | some c =>
    rw [Option.bind_some, Reading.value_eq_ok_iff.1 (hgiven c hc), Option.getD_some]

/-- A value of any form that may be missing is the one that its field is given, and `null` is
none. -/
theorem optional_value_of_read {part : α → Option Json} (hr : r.Lawful)
    (hf : r.Decides f part fun c v => Reading.optional .value c = .ok v)
    (hinitial : part r.initial = none) {d : Document} (h : r.read d = .ok x) :
    part x = Option.guard (fun j => !j.isNull) (r.valueAt f.names d) := by
  obtain ⟨hgiven, habsent⟩ := part_of_read hr hf h
  unfold valueAt
  cases hc : r.content? f.names d with
  | none => exact (habsent hc).trans hinitial
  | some c =>
    have hread := hgiven c hc
    unfold Reading.optional at hread
    split at hread
    · exact (Except.ok.inj hread).symm
    next hnull =>
      obtain ⟨j, hj, hpart⟩ := exists_of_map_eq_ok hread
      -- only `null` is read as the value `null`
      have hsome : j.isNull = false := by
        refine Bool.eq_false_iff.2 fun hj' => hnull (Reading.eq_null_of_value ?_)
        rw [← Json.eq_null_of_isNull hj', hj]
      rw [Option.bind_some, Reading.value_eq_ok_iff.1 hj, Option.getD_some, ← hpart, Option.guard,
        hsome]
      rfl

end Parts

end Record

end Dql
