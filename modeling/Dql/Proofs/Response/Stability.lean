import Dql.Proofs.Response.Filling

/-!
# Filling a filled response

A response is filled once and for all if no fallback has an object in it
(`applyFallbacks_applyFallbacks`): the second filling finds every name in its place, and
what stands there is either of the response, filled by the queries below, or a fallback,
in which there is nothing to fill.

The queries that apply to a value are more than those which one of them has below it,
since siblings may share a name. So the induction, which is on the response, is for any
part of the queries that filled it (`Settles`). Objects are compared as lists
of members; that a member which is put in again stays where it was is `InPlace`.
-/

namespace Dql

/-! ## Members in place -/

namespace SortedEntries

variable {κ ν : Type} [Ord κ] [Std.LawfulEqOrd κ]

theorem insert_insert_self (key : κ) (value other : ν) (entries : List (κ × ν)) :
    insert key value (insert key other entries) = insert key value entries := by
  fun_induction insert key other entries with
  | case1 => simp [insert]
  | case2 k v rest h => simp [insert, h]
  | case3 k v rest h => simp [insert, h]
  | case4 k v rest h ih => simp [insert, h, ih]

variable [Std.TransOrd κ]

theorem insert_comm_of_lt {a b : κ} (hab : compare a b = .lt) (v w : ν)
    (entries : List (κ × ν)) :
    insert a v (insert b w entries) = insert b w (insert a v entries) := by
  have hba : compare b a = .gt := Std.OrientedCmp.gt_iff_lt.2 hab
  induction entries with
  | nil => simp [insert, hab, hba]
  | cons e rest ih =>
    obtain ⟨k, x⟩ := e
    cases hb : compare b k with
    | lt =>
      have ha : compare a k = .lt := Std.TransCmp.lt_trans hab hb
      simp [insert, hab, hba, ha, hb]
    | eq =>
      obtain rfl : b = k := Std.LawfulEqCmp.eq_of_compare hb
      simp [insert, hab, hba]
    | gt =>
      cases ha : compare a k <;> simp [insert, hba, ha, hb, ih]

/-- Two keys may be bound in any order. -/
theorem insert_comm {a b : κ} (hne : a ≠ b) (v w : ν) (entries : List (κ × ν)) :
    insert a v (insert b w entries) = insert b w (insert a v entries) := by
  cases hab : compare a b with
  | lt => exact insert_comm_of_lt hab v w entries
  | eq => exact absurd (Std.LawfulEqCmp.eq_of_compare hab) hne
  | gt => exact (insert_comm_of_lt (Std.OrientedCmp.gt_iff_lt.1 hab) w v entries).symm

end SortedEntries

/-! ## Fallbacks -/

mutual

/-- Whether there is an object in a value, in lists if not at its top. -/
def Json.hasObject : Json → Bool
  | .object _ => true
  | .array xs => Json.anyHasObject xs
  | _ => false

/-- Whether there is an object in one of some values. -/
def Json.anyHasObject : List Json → Bool
  | [] => false
  | x :: rest => x.hasObject || Json.anyHasObject rest

end

mutual

/-- The fallbacks of a query and of the queries below it. -/
def Query.fallbacks : Query → List Json
  | ⟨_, fallback, children⟩ => fallback.toList ++ Query.allFallbacks children

/-- The fallbacks of queries, at any depth. -/
def Query.allFallbacks : List Query → List Json
  | [] => []
  | q :: rest => q.fallbacks ++ Query.allFallbacks rest

end

namespace Query

theorem allFallbacks_append (qs rest : List Query) :
    allFallbacks (qs ++ rest) = allFallbacks qs ++ allFallbacks rest := by
  induction qs with
  | nil => rfl
  | cons q qs ih => rw [List.cons_append, allFallbacks, ih, allFallbacks, List.append_assoc]

theorem fallbacks_eq (q : Query) : q.fallbacks = q.fallback.toList ++ allFallbacks q.children := by
  obtain ⟨clause, fallback, children⟩ := q
  rw [fallbacks]

end Query

open Json (member?)

namespace Response

open Query (allFallbacks)

mutual

/-- A value without objects has nothing to fill. -/
theorem mapObjects_of_not_hasObject (f : List (String × Json) → List (String × Json)) :
    ∀ {v : Json}, v.hasObject = false → mapObjects f v = v
  | .object _, h => by simp [Json.hasObject] at h
  | .array _, h => congrArg Json.array (mapItems_of_not_anyHasObject f h)
  | .null, _ | .bool _, _ | .number _, _ | .string _, _ => rfl

theorem mapItems_of_not_anyHasObject (f : List (String × Json) → List (String × Json)) :
    ∀ {xs : List Json}, Json.anyHasObject xs = false → mapObjects.mapItems f xs = xs
  | [], _ => rfl
  | x :: rest, h => by
    rw [Json.anyHasObject, Bool.or_eq_false_iff] at h
    rw [mapObjects.mapItems, mapObjects_of_not_hasObject f h.1,
      mapItems_of_not_anyHasObject f h.2]

end

/-- What is nested below the queries of a name has no fallbacks but theirs. -/
theorem allFallbacks_below_subset (k : String) (qs : List Query) :
    allFallbacks (below k qs) ⊆ allFallbacks qs := by
  induction qs with
  | nil => exact List.Subset.refl _
  | cons q rest ih =>
    rw [below, Query.allFallbacks_append, allFallbacks, Query.fallbacks_eq]
    refine List.append_subset.2 ⟨?_, fun v hv => List.mem_append_right _ (ih hv)⟩
    split
    · exact fun v hv => List.mem_append_left _ (List.mem_append_right _ hv)
    · exact List.nil_subset _

theorem children_subset_below {k : String} {qs : List Query} {q : Query} (hmem : q ∈ qs)
    (hq : GoesBy k q) : q.children ⊆ below k qs := by
  induction qs with
  | nil => exact absurd hmem List.not_mem_nil
  | cons p rest ih =>
    rw [below]
    rcases List.mem_cons.1 hmem with rfl | hmem
    · rw [if_pos hq]
      exact List.subset_append_left _ _
    · exact fun c hc => List.mem_append_right _ (ih hmem hc)

/-- What is inserted without objects is a fallback as it is. -/
theorem hasObject_of_inserted {k : String} {qs : List Query} {v : Json}
    (hflat : ∀ v ∈ allFallbacks qs, v.hasObject = false) (h : inserted k qs = some v) :
    v.hasObject = false := by
  induction qs with
  | nil => exact absurd h (by simp [inserted])
  | cons q rest ih =>
    rw [allFallbacks, Query.fallbacks_eq, List.append_assoc, List.forall_mem_append] at hflat
    obtain ⟨hown, hflat⟩ := hflat
    have hrest := (List.forall_mem_append.1 hflat).2
    rw [inserted] at h
    split at h
    · cases hfallback : q.fallback with
      | none =>
        rw [hfallback] at h
        exact ih hrest h
      | some value =>
        rw [hfallback] at h hown
        have hvalue : value.hasObject = false := hown value List.mem_cons_self
        obtain rfl := Option.some.inj h
        rwa [mapObjects_of_not_hasObject _ hvalue]
    · exact ih hrest h

/-! ## Filled objects -/

section Members

variable {k : String} {ms : List (String × Json)}

/-- The member of a name, if there is one, stays where it is when it is put in again. -/
def InPlace (k : String) (ms : List (String × Json)) : Prop :=
  ∀ v, member? k ms = some v → SortedEntries.insert k v ms = ms

theorem inPlace_insert (k : String) (v : Json) (ms : List (String × Json)) :
    InPlace k (SortedEntries.insert k v ms) := by
  intro w hw
  obtain rfl := Option.some.inj ((SortedEntries.find?_insert_self k v ms).symm.trans hw)
  exact SortedEntries.insert_insert_self k v v ms

theorem InPlace.insert (h : InPlace k ms) (other : String) (v : Json) :
    InPlace k (SortedEntries.insert other v ms) := by
  by_cases hk : k = other
  · subst hk
    exact inPlace_insert k v ms
  · intro w hw
    have hw' : member? k ms = some w := by
      rw [← hw]
      exact (SortedEntries.find?_insert_of_ne hk v ms).symm
    rw [SortedEntries.insert_comm hk, h w hw']

theorem InPlace.fillOne (h : InPlace k ms) (q : Query) : InPlace k (fillOne q ms) := by
  rw [fillOne_eq]
  split
  · exact h
  · split
    · exact h.insert _ _
    · exact h.insert _ _
    · exact h

theorem InPlace.fill (h : InPlace k ms) (qs : List Query) : InPlace k (fill qs ms) := by
  induction qs generalizing ms with
  | nil => rwa [Response.fill]
  | cons q rest ih =>
    rw [Response.fill]
    exact ih (h.fillOne q)

theorem inPlace_fillOne {q : Query} (hq : GoesBy k q) (ms : List (String × Json)) :
    InPlace k (fillOne q ms) := by
  cases hmember : member? k ms with
  | some v =>
    rw [fillOne_of_some hq hmember]
    exact inPlace_insert k _ ms
  | none =>
    rw [fillOne_of_none hq hmember]
    cases q.fallback with
    | some value => exact inPlace_insert k value ms
    | none =>
      intro v hv
      rw [Option.elim_none, hmember] at hv
      exact absurd hv (by simp)

/-- Filling puts the members that it looks at in their places. -/
theorem inPlace_fill {qs : List Query} {q : Query} (hmem : q ∈ qs) (hq : GoesBy k q)
    (ms : List (String × Json)) : InPlace k (fill qs ms) := by
  obtain ⟨before, after, rfl⟩ := List.append_of_mem hmem
  rw [fill_append, fill]
  exact (inPlace_fillOne hq _).fill after

/-- **A query has nothing to do** in an object that has its result, with nothing to fill in
it, or lacks its result, with no fallback for it. -/
theorem fillOne_eq_self {q : Query}
    (hplace : ∀ k, GoesBy k q → InPlace k ms)
    (hpresent : ∀ k, GoesBy k q → ∀ v, member? k ms = some v →
      mapObjects (fill q.children) v = v)
    (habsent : ∀ k, GoesBy k q → member? k ms = none → q.fallback = none) :
    fillOne q ms = ms := by
  by_cases hname : q.resultName = ""
  · rw [fillOne_eq, if_pos hname]
  · have hq : GoesBy q.resultName q := ⟨rfl, hname⟩
    cases hmember : member? q.resultName ms with
    | some v =>
      rw [fillOne_of_some hq hmember, hpresent _ hq v hmember]
      exact hplace _ hq v hmember
    | none =>
      rw [fillOne_of_none hq hmember, habsent _ hq hmember]
      rfl

theorem fill_eq_self {qs : List Query} (h : ∀ q ∈ qs, fillOne q ms = ms) : fill qs ms = ms := by
  induction qs with
  | nil => rw [fill]
  | cons q rest ih =>
    obtain ⟨hq, hrest⟩ := List.forall_mem_cons.1 h
    rw [fill, hq, ih hrest]

end Members

/-! ## Filled values -/

/-- Any part of the queries that filled a value finds nothing to do in it. -/
def Settles (v : Json) : Prop :=
  ∀ qs part : List Query, (∀ f ∈ allFallbacks qs, f.hasObject = false) → part ⊆ qs →
    mapObjects (fill part) (mapObjects (fill qs) v) = mapObjects (fill qs) v

/-- **The step**: an object settles if its members do. A member that was there was filled by
all queries of its name, whose children are the part that a single query has; one that was
added has nothing to fill. -/
theorem settles_object {ms : List (String × Json)}
    (h : ∀ k v, member? k ms = some v → Settles v) : Settles (.object ms) := by
  intro qs part hflat hpart
  refine congrArg Json.object (fill_eq_self fun q hmem => ?_)
  have hmem : q ∈ qs := hpart hmem
  refine fillOne_eq_self (fun k hq => inPlace_fill hmem hq ms) ?_ ?_
  · intro k hq v hv
    cases hmember : member? k ms with
    | some u =>
      rw [member?_fill_of_some qs hmember] at hv
      obtain rfl := Option.some.inj hv
      -- all queries of the name filled it, and the children of one are a part of theirs
      exact h k u hmember _ _ (fun f hf => hflat f (allFallbacks_below_subset k qs hf))
        (children_subset_below hmem hq)
    | none =>
      rw [member?_fill_of_none qs hmember] at hv
      exact mapObjects_of_not_hasObject _ (hasObject_of_inserted hflat hv)
  · intro k hq hnone
    cases hmember : member? k ms with
    | some u =>
      rw [member?_fill_of_some qs hmember] at hnone
      exact absurd hnone (by simp)
    | none =>
      -- a name that is still missing is one that no query had a fallback for
      rw [member?_fill_of_none qs hmember] at hnone
      cases hfallback : q.fallback with
      | none => rfl
      | some value =>
        have hsome := isSome_inserted hmem hq hfallback
        rw [hnone] at hsome
        exact absurd hsome (by simp)

mutual

theorem settles : ∀ v : Json, Settles v
  | .object ms => settles_object fun k _ h => settles_of_member? ms h
  | .array xs => fun qs part hflat hpart => by
    refine congrArg Json.array ?_
    exact settles_items xs qs part hflat hpart
  | .null | .bool _ | .number _ | .string _ => fun _ _ _ _ => rfl

theorem settles_items : ∀ (xs : List Json) (qs part : List Query),
    (∀ f ∈ allFallbacks qs, f.hasObject = false) → part ⊆ qs →
    mapObjects.mapItems (fill part) (mapObjects.mapItems (fill qs) xs)
      = mapObjects.mapItems (fill qs) xs
  | [], _, _, _, _ => rfl
  | x :: rest, qs, part, hflat, hpart => by
    rw [mapObjects.mapItems, mapObjects.mapItems, settles x qs part hflat hpart,
      settles_items rest qs part hflat hpart]

theorem settles_of_member? : ∀ (ms : List (String × Json)) {k : String} {v : Json},
    member? k ms = some v → Settles v
  | [], _, _, h => by simp [member?, SortedEntries.find?] at h
  | (key, x) :: rest, k, v, h => by
    rw [member?, SortedEntries.find?] at h
    split at h
    · obtain rfl := Option.some.inj h
      exact settles x
    · exact settles_of_member? rest h

end

/-- **Filling twice is filling once**, if no fallback has an object in it, whatever the
response is: siblings may share a name, and queries with others below them may have
fallbacks. -/
theorem applyFallbacks_applyFallbacks {qs : List Query}
    (h : ∀ f ∈ allFallbacks qs, f.hasObject = false) (response : Json) :
    applyFallbacks qs (applyFallbacks qs response) = applyFallbacks qs response := by
  cases response with
  | object ms => exact settles (.object ms) qs qs h (List.Subset.refl qs)
  | _ => rfl

/-- Of the friend queries, one has a fallback and a query below it, and both have one name. -/
theorem applyFallbacks_applyFallbacks_friends :
    (∀ f ∈ allFallbacks friendQueries, f.hasObject = false) ∧
    applyFallbacks friendQueries (applyFallbacks friendQueries friendResponse)
      = applyFallbacks friendQueries friendResponse := by
  have hflat : ∀ f ∈ allFallbacks friendQueries, f.hasObject = false := by decide
  exact ⟨hflat, applyFallbacks_applyFallbacks hflat friendResponse⟩

/-- An object that is a fallback is filled the second time only. -/
example (q : Query)
    (hq : q = { clause := { attr := "friend" }, fallback := some (.object []),
                children := [scalar "name" .null] }) :
    applyFallbacks [q] (.object []) = .object [("friend", .object [])] ∧
    applyFallbacks [q] (.object [("friend", .object [])])
      = .object [("friend", .object [("name", .null)])] := by
  subst hq
  exact ⟨rfl, rfl⟩

end Response

end Dql
