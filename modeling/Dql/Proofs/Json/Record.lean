import Dql.Json.Record
import Dql.Proofs.Outcome

/-!
# Records are read back

A record is written field by field, each of them left out or as one member under its
first name. `Record.WritesAll` says what this makes of a record that is filled from the
front: a field that is left out has to leave the record as it is, any other has to be read
as what it was written for. An object that is written this way is read back
(`Record.read_of_writesAll`), whatever the record, provided that no name belongs to two of
its fields.

The other half is what holds of every record that is read: a property that the initial
record has and that every field keeps (`Record.of_read`). Both are inductions over what
the reader goes through, so that no record needs one of its own.
-/

namespace Dql

namespace Field

variable {α : Type}

/-- A field keeps a property of records, whatever document it is read from. -/
def Keeps (P : α → Prop) : Field α → Prop
  | plain _ _ set => ∀ d f x, set d = .ok f → P x → P (f x)
  | nested _ _ set => ∀ xs x, (∀ y ∈ xs, P y) → P x → P (set xs x)

variable {β : Type} {P : α → Prop} {names : List String} {required : Bool} {r : Reading β}
  {set : β → α → α}

/-- What is known of the values that a field is read as may be used. -/
theorem keeps_of_reading {Q : β → Prop} (hread : ∀ d v, r d = .ok v → Q v)
    (h : ∀ v x, Q v → P x → P (set v x)) :
    (plain names required fun d => (r d).map set).Keeps P := by
  intro d f x hset hx
  obtain ⟨v, hv, rfl⟩ := exists_of_map_eq_ok hset
  exact h v x (hread d v hv) hx

theorem keeps_of (h : ∀ v x, P x → P (set v x)) :
    (plain names required fun d => (r d).map set).Keeps P :=
  keeps_of_reading (fun _ _ _ => trivial) fun v x _ hx => h v x hx

end Field

namespace Record

variable {α : Type} {r : Record α}

/-! ## What holds of every record that is read -/

section Invariant

variable {P : α → Prop}

theorem of_finish {seen : List Nat} {x y : α} (h : r.finish seen x = .ok y) : x = y := by
  unfold finish at h
  split at h
  · exact Except.ok.inj h
  · simp at h

theorem mem_of_find? {name : String} {fields : List (Field α)} {i j : Nat} {f : Field α}
    (h : find? name fields i = some (j, f)) : f ∈ fields := by
  induction fields generalizing i with
  | nil => simp [find?] at h
  | cons g rest ih =>
    rw [find?] at h
    split at h
    · simp only [Option.some.injEq, Prod.mk.injEq] at h
      exact h.2 ▸ List.mem_cons_self
    · exact List.mem_cons_of_mem _ (ih h)

/-- The initial record has a property, and every field keeps it. -/
structure Keeps (r : Record α) (P : α → Prop) : Prop where
  initial : P r.initial
  fields : ∀ f ∈ r.fields, f.Keeps P

mutual

/-- **What every field keeps holds of every record that is read.** -/
theorem of_read (hk : r.Keeps P) : ∀ {d : Document} {x : α}, r.read d = .ok x → P x
  | .object ms, x, h => by
    rw [read] at h
    exact of_readMembers hk hk.initial h
  | .array ds, x, h => by
    rw [read] at h
    exact of_readItems hk hk.fields hk.initial h
  | .null, _, h | .bool _, _, h | .number _, _, h | .string _, _, h | .unreadable, _, h => by
    simp [read] at h

theorem of_readMembers (hk : r.Keeps P) : ∀ {ms : List (MemberKey × Document)} {x y : α}
    {seen : List Nat}, P x → r.readMembers x seen ms = .ok y → P y
  | [], x, y, seen, hx, h => by
    rw [readMembers] at h
    exact of_finish h ▸ hx
  | (k, d) :: rest, x, y, seen, hx, h => by
    rw [readMembers] at h
    cases hfind : find? k.text r.fields 0 with
    | none =>
      rw [hfind] at h
      exact of_readMembers hk hx h
    | some p =>
      obtain ⟨i, f⟩ := p
      have hf := hk.fields f (mem_of_find? hfind)
      rw [hfind] at h
      cases f with
      | plain names required set =>
        dsimp only at h
        split at h
        · simp at h
        · cases hset : set d with
          | error e => rw [hset] at h; simp at h
          | ok g =>
            rw [hset] at h
            exact of_readMembers hk (hf d g x hset hx) h
      | nested names nullable set =>
        dsimp only at h
        split at h
        · simp at h
        · cases hnested : r.readNested nullable d with
          | error e => rw [hnested] at h; simp at h
          | ok xs =>
            rw [hnested] at h
            exact of_readMembers hk (hf xs x (of_readNested hk hnested) hx) h

theorem of_readItems (hk : r.Keeps P) : ∀ {ds : List Document} {fields : List (Field α)} {x y : α}
    {seen : List Nat}, (∀ f ∈ fields, f.Keeps P) → P x → r.readItems x seen fields ds = .ok y →
      P y
  | [], fields, x, y, seen, _, hx, h => by
    rw [readItems] at h
    exact of_finish h ▸ hx
  | _ :: _, [], _, _, _, _, _, h => by simp [readItems] at h
  | d :: rest, .plain names required set :: fields, x, y, seen, hkeeps, hx, h => by
    rw [List.forall_mem_cons] at hkeeps
    rw [readItems] at h
    cases hset : set d with
    | error e => rw [hset] at h; simp at h
    | ok g =>
      rw [hset] at h
      exact of_readItems hk hkeeps.2 (hkeeps.1 d g x hset hx) h
  | d :: rest, .nested names nullable set :: fields, x, y, seen, hkeeps, hx, h => by
    rw [List.forall_mem_cons] at hkeeps
    rw [readItems] at h
    cases hnested : r.readNested nullable d with
    | error e => rw [hnested] at h; simp at h
    | ok xs =>
      rw [hnested] at h
      exact of_readItems hk hkeeps.2 (hkeeps.1 xs x (of_readNested hk hnested) hx) h

theorem of_readNested (hk : r.Keeps P) : ∀ {d : Document} {nullable : Bool} {xs : List α},
    r.readNested nullable d = .ok xs → ∀ x ∈ xs, P x
  | .array ds, nullable, xs, h => by
    rw [readNested] at h
    exact of_readAll hk h
  | .null, true, xs, h => by
    rw [readNested, if_pos rfl] at h
    obtain rfl := Except.ok.inj h
    exact fun x hx => absurd hx List.not_mem_nil
  | .null, false, _, h => by simp [readNested] at h
  | .object _, _, _, h | .bool _, _, _, h | .number _, _, _, h | .string _, _, _, h
  | .unreadable, _, _, h => by simp [readNested] at h

theorem of_readAll (hk : r.Keeps P) : ∀ {ds : List Document} {xs : List α},
    r.readAll ds = .ok xs → ∀ x ∈ xs, P x
  | [], xs, h => by
    rw [readAll] at h
    obtain rfl := Except.ok.inj h
    exact fun x hx => absurd hx List.not_mem_nil
  | d :: rest, xs, h => by
    rw [readAll] at h
    cases hd : r.read d with
    | error e => rw [hd] at h; simp at h
    | ok x =>
      rw [hd] at h
      dsimp only at h
      cases hrest : r.readAll rest with
      | error e => rw [hrest] at h; simp [Except.map] at h
      | ok more =>
        rw [hrest] at h
        obtain rfl := Except.ok.inj h
        exact List.forall_mem_cons.2 ⟨of_read hk hd, of_readAll hk hrest⟩

end

theorem Keeps.forall_read (hk : r.Keeps P) : ∀ d x, r.read d = .ok x → P x :=
  fun _ _ => of_read hk

end Invariant

/-! ## What is written is read back -/

/-- What a written field makes of a record: left out, it leaves it as it is; as a member,
it changes it as the field is read. -/
inductive Writes (r : Record α) : Field α → List (String × Json) → α → α → Prop where
  | omitted {f : Field α} {x : α} (h : f.isRequired = false) : Writes r f [] x x
  | plain {name : String} {names : List String} {required : Bool} {set : Reading (α → α)}
      {j : Json} {f : α → α} {x : α} (h : set j.document = .ok f) :
      Writes r (.plain (name :: names) required set) [(name, j)] x (f x)
  | nested {name : String} {names : List String} {nullable : Bool} {set : List α → α → α}
      {js : List Json} {xs : List α} {x : α} (h : r.readAll (Json.itemDocuments js) = .ok xs) :
      Writes r (.nested (name :: names) nullable set) [(name, .array js)] x (set xs x)

/-- What written fields make of a record, one after the other. -/
inductive WritesAll (r : Record α) : List (Field α) → List (String × Json) → α → α → Prop where
  | last {f : Field α} {ms : List (String × Json)} {x y : α} (h : Writes r f ms x y) :
      WritesAll r [f] ms x y
  | cons {f : Field α} {fs : List (Field α)} {ms rest : List (String × Json)} {x y z : α}
      (h : Writes r f ms x y) (hrest : WritesAll r fs rest y z) :
      WritesAll r (f :: fs) (ms ++ rest) x z

theorem find?_append {name : String} {before : List (Field α)} {f : Field α}
    (after : List (Field α)) (i : Nat) (hf : name ∈ f.names)
    (hbefore : ∀ g ∈ before, name ∉ g.names) :
    find? name (before ++ f :: after) i = some (i + before.length, f) := by
  induction before generalizing i with
  | nil =>
    rw [List.nil_append, find?, if_pos (by simpa using hf)]
    rfl
  | cons g rest ih =>
    rw [List.forall_mem_cons] at hbefore
    rw [List.cons_append, find?, if_neg (by simpa using hbefore.1), ih (i + 1) hbefore.2,
      List.length_cons, Nat.add_assoc, Nat.add_comm 1]

theorem complete_of_seen {seen : List Nat} {fields : List (Field α)} {i : Nat}
    (h : ∀ k f, fields[k]? = some f → f.isRequired = true → i + k ∈ seen) :
    complete seen fields i = true := by
  induction fields generalizing i with
  | nil => rfl
  | cons f rest ih =>
    rw [complete, Bool.and_eq_true]
    refine ⟨?_, ih fun k g hk hg => ?_⟩
    · cases hf : f.isRequired with
      | false => rfl
      | true => simpa using h 0 f rfl hf
    · have hseen := h (k + 1) g hk hg
      rwa [Nat.add_comm k 1, ← Nat.add_assoc] at hseen

/-- The places of the fields in front that were seen: none behind them, and all that are
required. -/
structure Seen (before : List (Field α)) (seen : List Nat) : Prop where
  front : ∀ i ∈ seen, i < before.length
  required : ∀ k f, before[k]? = some f → f.isRequired = true → k ∈ seen

theorem Seen.nil : Seen ([] : List (Field α)) [] :=
  ⟨fun _ hi => absurd hi List.not_mem_nil, fun k f hk => by simp at hk⟩

theorem Seen.not_mem {before : List (Field α)} {seen : List Nat} (h : Seen before seen) :
    before.length ∉ seen := fun hmem => Nat.lt_irrefl _ (h.front _ hmem)

/-- One field further, that was seen or need not be. -/
theorem Seen.step {before : List (Field α)} {seen seen' : List Nat} {f : Field α}
    (h : Seen before seen) (hf : f.isRequired = true → before.length ∈ seen')
    (hseen : ∀ i ∈ seen, i ∈ seen') (hseen' : ∀ i ∈ seen', i ∈ seen ∨ i = before.length) :
    Seen (before ++ [f]) seen' := by
  constructor
  · intro i hi
    rw [List.length_append, List.length_singleton]
    rcases hseen' i hi with hi | rfl
    · exact Nat.lt_succ_of_lt (h.front i hi)
    · exact Nat.lt_succ_self _
  · intro k g hk hg
    rcases Nat.lt_or_ge k before.length with hlt | hge
    · rw [List.getElem?_append_left hlt] at hk
      exact hseen k (h.required k g hk hg)
    · rw [List.getElem?_append_right hge, List.getElem?_singleton] at hk
      split at hk
      next hzero =>
        obtain rfl := Option.some.inj hk
        have hlast : k = before.length := by omega
        exact hlast ▸ hf hg
      next => simp at hk

/-- **One field of a written record** is read as it was written: the reader goes on behind
its members, with the record changed and its place among those seen. -/
theorem readMembers_of_writes {before after : List (Field α)} {f : Field α}
    {ms : List (String × Json)} {x y : α} {seen : List Nat} (rest : List (String × Json))
    (hfields : r.fields = before ++ f :: after)
    (hbefore : ∀ name ∈ f.names, ∀ g ∈ before, name ∉ g.names) (hseen : Seen before seen)
    (h : Writes r f ms x y) :
    ∃ seen', Seen (before ++ [f]) seen' ∧
      r.readMembers x seen (Json.memberDocuments (ms ++ rest))
        = r.readMembers y seen' (Json.memberDocuments rest) := by
  have hgiven : Seen (before ++ [f]) (before.length :: seen) :=
    hseen.step (fun _ => List.mem_cons_self) (fun _ hi => List.mem_cons_of_mem _ hi)
      fun i hi => (List.mem_cons.1 hi).symm
  have hnew : ¬ seen.contains (0 + before.length) = true := by
    rw [Nat.zero_add]
    simpa using hseen.not_mem
  cases h with
  | omitted hrequired =>
    refine ⟨seen, hseen.step (fun hf => ?_) (fun _ hi => hi) fun _ hi => Or.inl hi, rfl⟩
    rw [hrequired] at hf
    simp at hf
  | @plain name names required set j g _ hset =>
    have hname : name ∈ (Field.plain (name :: names) required set).names := List.mem_cons_self
    have hfind := find?_append after 0 hname (hbefore name hname)
    refine ⟨_, hgiven, ?_⟩
    rw [List.singleton_append, Json.memberDocuments, readMembers, hfields, hfind]
    dsimp only
    rw [if_neg hnew, hset, Nat.zero_add]
  | @nested name names nullable set js xs _ hxs =>
    have hname : name ∈ (Field.nested (name :: names) nullable set).names := List.mem_cons_self
    have hfind := find?_append after 0 hname (hbefore name hname)
    refine ⟨_, hgiven, ?_⟩
    rw [List.singleton_append, Json.memberDocuments, readMembers, hfields, hfind]
    dsimp only
    rw [if_neg hnew, Json.document, readNested, hxs, Nat.zero_add]

/-- **The fields of a written record** are read one after the other, and none that is
required is missing at the end. -/
theorem readMembers_of_writesAll {before fields : List (Field α)} {ms : List (String × Json)}
    {x y : α} {seen : List Nat} (hfields : r.fields = before ++ fields)
    (hnames : (r.fields.flatMap Field.names).Nodup) (hseen : Seen before seen)
    (h : WritesAll r fields ms x y) : r.readMembers x seen (Json.memberDocuments ms) = .ok y := by
  have hdistinct : ∀ {front : List (Field α)} {f : Field α} {back : List (Field α)},
      r.fields = front ++ f :: back → ∀ name ∈ f.names, ∀ g ∈ front, name ∉ g.names := by
    intro front f back heq name hname g hg hmem
    rw [heq, List.flatMap_append, List.nodup_append] at hnames
    exact hnames.2.2 name (List.mem_flatMap.2 ⟨g, hg, hmem⟩) name
      (List.mem_flatMap.2 ⟨f, List.mem_cons_self, hname⟩) rfl
  induction h generalizing before seen with
  | @last f ms x y h =>
    obtain ⟨seen', hseen', heq⟩ := readMembers_of_writes [] hfields (hdistinct hfields) hseen h
    rw [List.append_nil] at heq
    rw [heq, Json.memberDocuments, readMembers, finish, hfields, if_pos]
    refine complete_of_seen fun k g hk hg => ?_
    rw [Nat.zero_add]
    exact hseen'.required k g hk hg
  | @cons f fs ms rest x y z h _ ih =>
    obtain ⟨seen', hseen', heq⟩ := readMembers_of_writes rest hfields (hdistinct hfields) hseen h
    rw [heq]
    exact ih (by rw [hfields, List.append_assoc, List.singleton_append]) hseen'

/-- **A record that is written field by field is read back**, if no name belongs to two
fields. -/
theorem read_of_writesAll {ms : List (String × Json)} {x : α}
    (hnames : (r.fields.flatMap Field.names).Nodup)
    (h : WritesAll r r.fields ms r.initial x) : r.read (Json.object ms).document = .ok x := by
  rw [Json.document, read]
  exact readMembers_of_writesAll (List.nil_append _).symm hnames .nil h

/-! ## Both ways -/

/-- What a record is read as is read again from what it is written as; so what is written
is written again the same. -/
structure RoundTrips (r : Record α) (write : α → Json) : Prop where
  readsBack : ∀ d x, r.read d = .ok x → r.read (write x).document = .ok x
  rewritten : ∀ d j, (r.read d).map write = .ok j → (r.read j.document).map write = .ok j

theorem RoundTrips.of_readsBack {write : α → Json}
    (h : ∀ d x, r.read d = .ok x → r.read (write x).document = .ok x) : r.RoundTrips write where
  readsBack := h
  rewritten := by
    intro d j hj
    obtain ⟨x, hx, rfl⟩ := exists_of_map_eq_ok hj
    rw [h d x hx]
    rfl

/-- It is enough that the values of a kind are read back, if only such values are read. -/
theorem RoundTrips.of_keeps {P : α → Prop} {write : α → Json} (hk : r.Keeps P)
    (h : ∀ x, P x → r.read (write x).document = .ok x) : r.RoundTrips write :=
  .of_readsBack fun _ x hx => h x (of_read hk hx)

end Record

end Dql
