import Dql.Proofs.Json.Members
import Dql.Proofs.Json.Reading
import Mathlib.Data.List.Basic
import Mathlib.Data.Option.Basic
import Mathlib.Logic.Relation

/-!
# Records in other words

A document of a record may be rewritten at one place: in the record itself, or in what one of
its fields holds, down to any depth (`Record.Rewrites`). What is read of the rewritten document
follows from what the one step does at its place (`Record.Rewrites.follows`): the fields around
it are read as before, so whatever is seen of the record through a view that each field respects
is seen again.

A record is spelled anew if its members are put in another order, or if one of its fields is
given under another of its names (`Record.Respelled`); neither changes what is read
(`Record.Respelled.follows`). A record that has one field under two names at once, here or
further down (`Record.Doubled`), is not read at all (`Record.Doubled.refused`). A value of any
form may be exchanged for another one (`Record.Refills`); what a view shows of the record stays
if it does not show the value.
-/

namespace Dql

/-- The second outcome is a success where the first one is, and the two are the same as far as
a view goes. -/
def Follows {ε α β : Type} (view : α → β) (o o' : Except ε α) : Prop :=
  ∀ x, o = .ok x → ∃ x', o' = .ok x' ∧ view x' = view x

/-- What holds of one step holds of any number of them. -/
theorem Follows.of_reflTransGen {ε α β γ : Type} {view : α → β} {f : γ → Except ε α}
    {step : γ → γ → Prop} (hstep : ∀ {c d}, step c d → Follows view (f c) (f d)) {c d : γ}
    (h : Relation.ReflTransGen step c d) : Follows view (f c) (f d) := by
  induction h with
  | refl => exact fun x hx => ⟨x, hx, rfl⟩
  | tail _ hlast ih =>
    intro x hx
    obtain ⟨y, hy, hxy⟩ := ih x hx
    obtain ⟨z, hz, hyz⟩ := hstep hlast y hy
    exact ⟨z, hz, hyz.trans hxy⟩

/-- One item of a list is rewritten. -/
inductive Document.RewritesItem (step : Document → Document → Prop) : Document → Document → Prop
  where
  | intro (before after : List Document) {d d' : Document} (h : step d d') :
      RewritesItem step (.array (before ++ d :: after)) (.array (before ++ d' :: after))

/-- An item of a list has a property. -/
def Document.HasItem (part : Document → Prop) (d : Document) : Prop :=
  ∃ ds, d = .array ds ∧ ∃ e ∈ ds, part e

namespace Record

variable {α β : Type} {r : Record α}

/-! ## Rewriting at one place -/

/-- The content of a field is exchanged for another one. -/
inductive Exchanges (r : Record α) (f : Field α) (c c' : Document) : Document → Document → Prop
    where
  | member (before after : List (MemberKey × Document)) {k : MemberKey} (hk : k.text ∈ f.names) :
      Exchanges r f c c' (.object (before ++ (k, c) :: after))
        (.object (before ++ (k, c') :: after))
  | item {before : List Document} (after : List Document)
      (hplace : r.fields[before.length]? = some f) :
      Exchanges r f c c' (.array (before ++ c :: after)) (.array (before ++ c' :: after))

/-- A document of a record is rewritten at one place: by `here` as a whole, by one of the steps
`inside` in the content of a field, which they are listed for by its name, or in one of the
records nested in it. -/
inductive Rewrites (r : Record α) (here : Document → Document → Prop)
    (inside : List (String × (Document → Document → Prop))) : Document → Document → Prop where
  | here {d d' : Document} (h : here d d') : Rewrites r here inside d d'
  | inside {f : Field α} {step : Document → Document → Prop} {c c' d d' : Document}
      (hf : f ∈ r.fields) (hstep : (f.name, step) ∈ inside) (h : step c c')
      (hd : r.Exchanges f c c' d d') : Rewrites r here inside d d'
  | nested (before after : List Document) {names : List String} {nullable : Bool}
      {set : List α → α → α} {e e' d d' : Document}
      (hf : .nested names nullable set ∈ r.fields) (h : Rewrites r here inside e e')
      (hd : r.Exchanges (.nested names nullable set) (.array (before ++ e :: after))
        (.array (before ++ e' :: after)) d d') : Rewrites r here inside d d'

/-- What is seen of a record behind a change by a field depends on what was seen before. -/
def Respected (r : Record α) (view : α → β) (f : Field α) : Prop :=
  ∀ (c : Document) (a : α → α), r.change f c = .ok a → ∀ x x', view x' = view x →
    view (a x') = view (a x)

/-- A view of a record that all its fields respect, and that shows as much of the record as it
shows of those nested in it. -/
structure Respects (r : Record α) (view : α → β) : Prop where
  change : ∀ f ∈ r.fields, r.Respected view f
  nested : ∀ {names nullable set}, .nested names nullable set ∈ r.fields → ∀ {xs xs'},
    xs'.map view = xs.map view → ∀ x, view (set xs' x) = view (set xs x)

/-- With another content, a field changes a record to the same as far as a view goes. -/
def Carries (r : Record α) (view : α → β) (f : Field α) (c c' : Document) : Prop :=
  ∀ a, r.change f c = .ok a → ∃ a', r.change f c' = .ok a' ∧ ∀ x, view (a' x) = view (a x)

section Rewriting

variable {view : α → β} {f : Field α} {c c' d d' : Document} {x x' y : α} {seen : List Nat}

theorem readMembers_follows (hv : r.Respects view) {ms : List (MemberKey × Document)}
    (hx : view x' = view x) :
    Follows view (r.readMembers x seen ms) (r.readMembers x' seen ms) := by
  intro y h
  induction ms generalizing x x' seen with
  | nil =>
    rw [readMembers, finish] at h ⊢
    split at h
    next hcomplete =>
      obtain rfl := Except.ok.inj h
      exact ⟨x', by rw [if_pos hcomplete], hx⟩
    next => simp at h
  | cons m rest ih =>
    obtain ⟨k, d⟩ := m
    rcases readMembers_cons_eq_ok.1 h with ⟨hfind, hrest⟩ | ⟨i, f, a, hfind, hseen, ha, hrest⟩
    · obtain ⟨y', hy', hview⟩ := ih hx hrest
      exact ⟨y', readMembers_cons_eq_ok.2 (.inl ⟨hfind, hy'⟩), hview⟩
    · obtain ⟨y', hy', hview⟩ := ih (hv.change f (mem_of_find? hfind) d a ha x x' hx) hrest
      exact ⟨y', readMembers_cons_eq_ok.2 (.inr ⟨i, f, a, hfind, hseen, ha, hy'⟩), hview⟩

theorem readMembers_exchange (hr : r.Lawful) (hv : r.Respects view) (hf : f ∈ r.fields)
    (h : r.Carries view f c c') {k : MemberKey} (hk : k.text ∈ f.names)
    {before after : List (MemberKey × Document)} :
    Follows view (r.readMembers x seen (before ++ (k, c) :: after))
      (r.readMembers x seen (before ++ (k, c') :: after)) := by
  intro y hy
  induction before generalizing x seen with
  | nil =>
    obtain ⟨i, hi⟩ := List.getElem?_of_mem hf
    have hfind := hr.find?_eq hi hk
    obtain ⟨a, hseen, ha, hrest⟩ := exists_change_of_cons hy hfind
    obtain ⟨a', ha', hview⟩ := h a ha
    obtain ⟨y', hy', hsame⟩ := readMembers_follows hv (hview x) y hrest
    exact ⟨y', readMembers_cons_eq_ok.2 (.inr ⟨i, f, a', hfind, hseen, ha', hy'⟩), hsame⟩
  | cons m before ih =>
    rcases readMembers_cons_eq_ok.1 hy with ⟨hfind, hrest⟩ | ⟨i, g, a, hfind, hseen, ha, hrest⟩
    · obtain ⟨y', hy', hview⟩ := ih hrest
      exact ⟨y', readMembers_cons_eq_ok.2 (.inl ⟨hfind, hy'⟩), hview⟩
    · obtain ⟨y', hy', hview⟩ := ih hrest
      exact ⟨y', readMembers_cons_eq_ok.2 (.inr ⟨i, g, a, hfind, hseen, ha, hy'⟩), hview⟩

/-- In a list of field values, the value of a field is the content of the member that it stands
for. -/
theorem exists_members_item {before : List Document} (after : List Document)
    (hplace : r.fields[before.length]? = some f) :
    ∃ ms ns, ∀ c, r.members (.array (before ++ c :: after)) = ms ++ f.member c :: ns := by
  obtain ⟨hlt, hf⟩ := List.getElem?_eq_some_iff.1 hplace
  have hfields : r.fields = r.fields.take before.length ++
      f :: r.fields.drop (before.length + 1) := by
    rw [← hf, ← List.drop_eq_getElem_cons hlt, List.take_append_drop]
  have hlength : (r.fields.take before.length).length = before.length :=
    List.length_take_of_le (Nat.le_of_lt hlt)
  refine ⟨(r.fields.take before.length).zipWith Field.member before,
    (r.fields.drop (before.length + 1)).zipWith Field.member after, fun c => ?_⟩
  rw [← List.zipWith_cons_cons, ← List.zipWith_append hlength, ← hfields]
  rfl

theorem Exchanges.follows (hr : r.Lawful) (hv : r.Respects view) (hf : f ∈ r.fields)
    (h : r.Carries view f c c') (hd : r.Exchanges f c c' d d') :
    Follows view (r.read d) (r.read d') := by
  intro y hy
  obtain ⟨hfits, hmembers⟩ := (read_eq_ok_iff hr).1 hy
  cases hd with
  | member before after hk =>
    obtain ⟨y', hy', hview⟩ := readMembers_exchange hr hv hf h hk y hmembers
    exact ⟨y', (read_eq_ok_iff hr).2 ⟨trivial, hy'⟩, hview⟩
  | @item before after hplace =>
    obtain ⟨ms, ns, hitem⟩ := exists_members_item after hplace
    rw [hitem] at hmembers
    obtain ⟨y', hy', hview⟩ := readMembers_exchange hr hv hf h (hr.name_mem hf) y hmembers
    refine ⟨y', (read_eq_ok_iff hr).2 ⟨?_, by rwa [hitem]⟩, hview⟩
    unfold Fits at hfits ⊢
    simpa using hfits

end Rewriting

end Record

/-! ## What is read in lists and options -/

namespace Reading

variable {β γ : Type} {rd : Reading β} {view : β → γ} {d d' : Document}

theorem items_follows (h : Follows view (rd d) (rd d')) (before after : List Document) :
    Follows (List.map view) (items rd (before ++ d :: after))
      (items rd (before ++ d' :: after)) := by
  intro vs hvs
  induction before generalizing vs with
  | nil =>
    obtain ⟨v, more, hv, hmore, rfl⟩ := items_cons_eq_ok.1 hvs
    obtain ⟨v', hv', hview⟩ := h v hv
    exact ⟨v' :: more, items_cons_eq_ok.2 ⟨v', more, hv', hmore, rfl⟩,
      by rw [List.map_cons, List.map_cons, hview]⟩
  | cons e before ih =>
    obtain ⟨v, more, hv, hmore, rfl⟩ := items_cons_eq_ok.1 hvs
    obtain ⟨more', hmore', hview⟩ := ih more hmore
    exact ⟨v :: more', items_cons_eq_ok.2 ⟨v, more', hv, hmore', rfl⟩,
      by rw [List.map_cons, List.map_cons, hview]⟩

theorem list_follows {step : Document → Document → Prop}
    (h : ∀ d d', step d d' → Follows view (rd d) (rd d')) (hd : Document.RewritesItem step d d') :
    Follows (List.map view) (list rd d) (list rd d') := by
  cases hd with
  | intro before after hstep => exact items_follows (h _ _ hstep) before after

/-- No record is read from `null`, so one that is rewritten is not taken for none. -/
theorem optional_follows {r : Record β} (h : Follows view (r.read d) (r.read d'))
    (hd : d ≠ .null) : Follows (Option.map view) (optional r.read d) (optional r.read d') := by
  intro o ho
  unfold optional at ho
  split at ho
  · exact absurd rfl hd
  · obtain ⟨x, hx, rfl⟩ := exists_of_map_eq_ok ho
    obtain ⟨x', hx', hview⟩ := h x hx
    exact ⟨some x', optional_read hx', by rw [Option.map_some, Option.map_some, hview]⟩

theorem exists_of_mem_items {ds : List Document} {vs : List β} (h : items rd ds = .ok vs)
    (hd : d ∈ ds) : ∃ v, rd d = .ok v := by
  induction ds generalizing vs with
  | nil => exact absurd hd List.not_mem_nil
  | cons e ds ih =>
    obtain ⟨v, more, he, hmore, -⟩ := items_cons_eq_ok.1 h
    rcases List.mem_cons.1 hd with rfl | hd
    · exact ⟨v, he⟩
    · exact ih hmore hd

end Reading

/-! ## What a step changes -/

namespace Record

variable {α β γ δ : Type} {r : Record α}

section Rewriting

variable {view : α → β} {f g : Field α} {c c' d d' : Document} {x y : α}
  {here : Document → Document → Prop} {inside : List (String × (Document → Document → Prop))}

theorem Lawful.eq_of_name (hr : r.Lawful) (hf : f ∈ r.fields) (hg : g ∈ r.fields)
    (h : f.name = g.name) : f = g := by
  obtain ⟨i, hi⟩ := List.getElem?_of_mem hf
  obtain ⟨j, hj⟩ := List.getElem?_of_mem hg
  have hfind := hr.find?_eq hi (hr.name_mem hf)
  rw [h, hr.find?_eq hj (hr.name_mem hg), Option.some.injEq, Prod.mk.injEq] at hfind
  exact hfind.2.symm

theorem Respects.id (r : Record α) : r.Respects (fun x => x) where
  change := by
    rintro f - c a - x x' rfl
    rfl
  nested := by
    intro names nullable set _ xs xs' h x
    rw [List.map_id', List.map_id'] at h
    rw [h]

/-- A field is respected if it does the same to what is seen as to the record. -/
theorem respected_of {names : List String} {required : Bool} {rd : Reading γ} {set : γ → α → α}
    (set' : γ → β → β) (h : ∀ v x, view (set v x) = set' v (view x)) :
    r.Respected view (.plain names required fun d => (rd d).map set) := by
  intro c a ha x x' hx
  obtain ⟨v, -, rfl⟩ := exists_of_map_eq_ok ha
  rw [h, h, hx]

theorem respected_nested {names : List String} {nullable : Bool} {set : List α → α → α}
    (set' : List α → β → β) (h : ∀ xs x, view (set xs x) = set' xs (view x)) :
    r.Respected view (.nested names nullable set) := by
  intro c a ha x x' hx
  obtain ⟨xs, -, rfl⟩ := exists_of_map_eq_ok ha
  rw [h, h, hx]

/-- A field whose content is read by `rd` carries what `rd` carries. -/
theorem carries_of {names : List String} {required : Bool} {rd : Reading γ} {set : γ → α → α}
    {view' : γ → δ} (h : Follows view' (rd c) (rd c'))
    (hset : ∀ v v' x, view' v' = view' v → view (set v' x) = view (set v x)) :
    r.Carries view (.plain names required fun d => (rd d).map set) c c' := by
  intro a ha
  obtain ⟨v, hv, rfl⟩ := exists_of_map_eq_ok ha
  obtain ⟨v', hv', hview⟩ := h v hv
  exact ⟨set v', by rw [change, hv']; rfl, fun x => hset v v' x hview⟩

/-- Nothing changes in a record if nothing does in the content of a field. -/
theorem carries_of_injective {names : List String} {required : Bool} {rd : Reading γ}
    {set : γ → α → α} {view' : γ → δ} (hview : Function.Injective view')
    (h : Follows view' (rd c) (rd c')) :
    r.Carries (fun x => x) (.plain names required fun d => (rd d).map set) c c' :=
  carries_of h fun v v' x hv => by rw [hview hv]

/-- **One step of rewriting** changes what is read no more than it does at its own place. -/
theorem Rewrites.follows (hr : r.Lawful) (hv : r.Respects view)
    (hhere : ∀ {d d'}, here d d' → Follows view (r.read d) (r.read d'))
    (hinside : ∀ p ∈ inside, ∃ f ∈ r.fields, f.name = p.1 ∧ ∀ {c c'}, p.2 c c' →
      r.Carries view f c c')
    (h : r.Rewrites here inside d d') : Follows view (r.read d) (r.read d') := by
  induction h with
  | here h => exact hhere h
  | inside hf hstep h hd =>
    -- the step is listed for the name, and the name is that of one field
    obtain ⟨g, hg, hname, hcarries⟩ := hinside _ hstep
    obtain rfl := hr.eq_of_name hg hf hname
    exact hd.follows hr hv hf (hcarries h)
  | nested _ _ hf _ hd ih =>
    refine hd.follows hr hv hf fun a ha => ?_
    obtain ⟨xs, hxs, rfl⟩ := exists_of_map_eq_ok ha
    rw [readNested, readAll_eq_items] at hxs
    obtain ⟨xs', hxs', hview⟩ := Reading.items_follows ih _ _ xs hxs
    refine ⟨_, ?_, hv.nested hf hview⟩
    rw [change, readNested, readAll_eq_items, hxs']
    rfl

/-- Only what has the form of a record is rewritten. -/
theorem Rewrites.ne_null (hhere : ∀ {d d'}, here d d' → d ≠ .null)
    (h : r.Rewrites here inside d d') : d ≠ .null := by
  cases h with
  | here h => exact hhere h
  | inside _ _ _ hd => cases hd <;> simp
  | nested _ _ _ _ hd => cases hd <;> simp

end Rewriting

/-! ## Records in the fields of others -/

section Parts

variable {rec : Record β} {names : List String} {required : Bool} {d d' : Document}

theorem change_list_ne_ok {set : List β → α → α} {part : Document → Prop}
    (h : ∀ d, part d → ∀ x, rec.read d ≠ .ok x) (hd : Document.HasItem part d) (a : α → α) :
    r.change (.plain names required fun c => (Reading.list rec.read c).map set) d ≠ .ok a := by
  intro ha
  obtain ⟨ds, rfl, e, he, hpart⟩ := hd
  obtain ⟨xs, hxs, -⟩ := exists_of_map_eq_ok ha
  obtain ⟨x, hx⟩ := Reading.exists_of_mem_items hxs he
  exact h e hpart x hx

theorem change_optional_ne_ok {set : Option β → α → α} (hnull : d ≠ .null)
    (h : ∀ x, rec.read d ≠ .ok x) (a : α → α) :
    r.change (.plain names required fun c => (Reading.optional rec.read c).map set) d ≠ .ok a := by
  intro ha
  obtain ⟨o, ho, -⟩ := exists_of_map_eq_ok ha
  unfold Reading.optional at ho
  split at ho
  · exact absurd rfl hnull
  · obtain ⟨x, hx, -⟩ := exists_of_map_eq_ok ho
    exact h x hx

/-- A list of records, one of which is rewritten and read as the same. -/
theorem carries_list {step : Document → Document → Prop} {set : List β → α → α}
    (h : ∀ d d', step d d' → Follows (fun x => x) (rec.read d) (rec.read d'))
    (hd : Document.RewritesItem step d d') :
    r.Carries (fun x => x) (.plain names required fun c => (Reading.list rec.read c).map set)
      d d' :=
  carries_of_injective (List.map_injective_iff.2 Function.injective_id)
    (Reading.list_follows h hd)

/-- A record that may be missing, rewritten and read as the same. -/
theorem carries_optional {set : Option β → α → α} (hd : d ≠ .null)
    (h : Follows (fun x => x) (rec.read d) (rec.read d')) :
    r.Carries (fun x => x) (.plain names required fun c => (Reading.optional rec.read c).map set)
      d d' :=
  carries_of_injective (Option.map_injective Function.injective_id) (Reading.optional_follows h hd)

end Parts

/-! ## Other spellings -/

/-- The names that fields are written under, with the other names that they are read under. -/
def aliases (r : Record α) : List (String × String) :=
  r.fields.flatMap fun f => f.names.tail.map fun other => (f.name, other)

/-- An object of a record is spelled anew. -/
inductive Respelled (r : Record α) : Document → Document → Prop where
  /-- The members in another order. -/
  | reorder {ms ms' : List (MemberKey × Document)} (h : ms.Perm ms') :
      Respelled r (.object ms) (.object ms')
  /-- A field under another one of its names. -/
  | key (before after : List (MemberKey × Document)) {k k' : MemberKey} {c : Document}
      {f : Field α} (hf : f ∈ r.fields) (hk : k.text ∈ f.names) (hk' : k'.text ∈ f.names) :
      Respelled r (.object (before ++ (k, c) :: after)) (.object (before ++ (k', c) :: after))

theorem Respelled.ne_null {d d' : Document} (h : r.Respelled d d') : d ≠ .null := by
  cases h <;> simp

/-- **Another spelling of an object is read as the same record.** -/
theorem Respelled.follows (hr : r.Lawful) {d d' : Document} (h : r.Respelled d d') :
    Follows (fun x => x) (r.read d) (r.read d') := by
  intro y hy
  refine ⟨y, ?_, rfl⟩
  cases h with
  | reorder h => exact readMembers_perm hr h hy
  | key before after hf hk hk' =>
    obtain ⟨i, hi⟩ := List.getElem?_of_mem hf
    have hfind' := hr.find?_eq hi hk'
    refine readMembers_append_of (fun h => ?_) before hy
    obtain ⟨a, hseen, ha, hrest⟩ := exists_change_of_cons h (hr.find?_eq hi hk)
    exact readMembers_cons_eq_ok.2 (.inr ⟨i, _, a, hfind', hseen, ha, hrest⟩)

/-- A record is spelled anew at one place, in an object of its own or in the content of a
field. -/
def Respells (r : Record α) (inside : List (String × (Document → Document → Prop))) :
    Document → Document → Prop := r.Rewrites r.Respelled inside

theorem Respells.ne_null {inside : List (String × (Document → Document → Prop))}
    {d d' : Document} (h : r.Respells inside d d') : d ≠ .null :=
  Rewrites.ne_null (·.ne_null) h

theorem Respells.follows (hr : r.Lawful) {inside : List (String × (Document → Document → Prop))}
    (hinside : ∀ p ∈ inside, ∃ f ∈ r.fields, f.name = p.1 ∧ ∀ {c c'}, p.2 c c' →
      r.Carries (fun x => x) f c c')
    {d d' : Document} (h : r.Respells inside d d') :
    Follows (fun x => x) (r.read d) (r.read d') :=
  Rewrites.follows hr (.id r) (·.follows hr) hinside h

/-! ## Values of any form -/

/-- Values of any form are exchanged for others in a record, at one place in the content of a
field. -/
def Refills (r : Record α) (inside : List (String × (Document → Document → Prop))) :
    Document → Document → Prop := r.Rewrites (fun _ _ => False) inside

theorem Refills.ne_null {inside : List (String × (Document → Document → Prop))}
    {d d' : Document} (h : r.Refills inside d d') : d ≠ .null :=
  Rewrites.ne_null (fun h => h.elim) h

theorem Refills.follows (hr : r.Lawful) {view : α → β} (hv : r.Respects view)
    {inside : List (String × (Document → Document → Prop))}
    (hinside : ∀ p ∈ inside, ∃ f ∈ r.fields, f.name = p.1 ∧ ∀ {c c'}, p.2 c c' →
      r.Carries view f c c')
    {d d' : Document} (h : r.Refills inside d d') : Follows view (r.read d) (r.read d') :=
  Rewrites.follows hr hv (fun h => h.elim) hinside h

/-! ## Fields under two names -/

/-- A field is given under two names at once: in an object of the record itself, in the content
of a field, or in one of the records nested in it. -/
inductive Doubled (r : Record α) (inside : List (String × (Document → Prop))) : Document → Prop
    where
  | here {ms : List (MemberKey × Document)} {m n : MemberKey × Document} {f : Field α}
      (hf : f ∈ r.fields) (hm : m ∈ ms) (hn : n ∈ ms) (hname : m.1.text ∈ f.names)
      (hname' : n.1.text ∈ f.names) (hne : m.1.text ≠ n.1.text) : Doubled r inside (.object ms)
  | inside {f : Field α} {part : Document → Prop} {m : MemberKey × Document} {d : Document}
      (hf : f ∈ r.fields) (hpart : (f.name, part) ∈ inside) (h : part m.2)
      (hm : m ∈ r.members d) (hname : m.1.text ∈ f.names) : Doubled r inside d
  | nested {names : List String} {nullable : Bool} {set : List α → α → α} {k : MemberKey}
      {ds : List Document} {d e : Document} (hf : .nested names nullable set ∈ r.fields)
      (he : e ∈ ds) (h : Doubled r inside e) (hm : (k, .array ds) ∈ r.members d)
      (hname : k.text ∈ names) : Doubled r inside d

/-- **A field under two names at once is refused**, wherever the two are. -/
theorem Doubled.refused (hr : r.Lawful) {inside : List (String × (Document → Prop))}
    (hinside : ∀ p ∈ inside, ∃ f ∈ r.fields, f.name = p.1 ∧ ∀ {c}, p.2 c → ∀ a,
      r.change f c ≠ .ok a)
    {d : Document} (h : r.Doubled inside d) : ∀ x, r.read d ≠ .ok x := by
  induction h with
  | here hf hm hn hname hname' hne =>
    intro x hx
    -- the field is given once, so the two members are one and have one name
    obtain ⟨i, hi⟩ := List.getElem?_of_mem hf
    have heq := eq_of_mem_of_mem ((read_eq_ok_iff hr).1 hx).2 hm hn (hr.find?_eq hi hname)
      (hr.find?_eq hi hname')
    rw [heq] at hne
    exact hne rfl
  | inside hf hpart h hm hname =>
    intro x hx
    obtain ⟨i, hi⟩ := List.getElem?_of_mem hf
    obtain ⟨g, hg, hsame, hrefused⟩ := hinside _ hpart
    obtain rfl := hr.eq_of_name hg hf hsame
    obtain ⟨a, -, ha⟩ := exists_change_of_mem ((read_eq_ok_iff hr).1 hx).2 hm
      (hr.find?_eq hi hname)
    exact hrefused h a ha
  | nested hf he _ hm hname ih =>
    intro x hx
    obtain ⟨i, hi⟩ := List.getElem?_of_mem hf
    obtain ⟨a, -, ha⟩ := exists_change_of_mem ((read_eq_ok_iff hr).1 hx).2 hm
      (hr.find?_eq hi hname)
    obtain ⟨xs, hxs, -⟩ := exists_of_map_eq_ok ha
    rw [readNested, readAll_eq_items] at hxs
    obtain ⟨y, hy⟩ := Reading.exists_of_mem_items hxs he
    exact ih y hy

theorem Doubled.ne_null {inside : List (String × (Document → Prop))} {d : Document}
    (h : r.Doubled inside d) : d ≠ .null := by
  rintro rfl
  cases h with
  | inside _ _ _ hm _ => exact absurd hm List.not_mem_nil
  | nested _ _ _ hm _ => exact absurd hm List.not_mem_nil

end Record

end Dql
