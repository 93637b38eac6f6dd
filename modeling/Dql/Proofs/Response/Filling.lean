import Dql.Response

/-!
# What fallbacks add to a response

A response is filled object by object. Which queries fill an object follows from the
path that leads to it (`Response.applicable`): the roots fill the response itself, and
behind a name it is the children of all queries of that name, one after the other; a
place in a list changes nothing.

`member?_fill_of_some` and `member?_fill_of_none` say what a single object holds once it
is filled, name by name. The first of them, followed along a path, is
`at?_applyFallbacks`: what a response has at the end of a path is still there when the
response is filled, itself filled by the queries that apply there. The main statement,
`applyFallbacks_extends`, reads off from this what filling keeps, what it adds, and that it
leaves nothing out.
-/

namespace Dql

/-! ## Paths -/

namespace Json

/-- A step into a value. -/
inductive Step where
  /-- To a member of an object. -/
  | key (name : String)
  /-- To an item of a list. -/
  | index (i : Nat)

/-- The value at the end of a path, if the path leads anywhere. -/
def at? : List Step → Json → Option Json
  | [], v => some v
  | .key k :: path, .object ms => (member? k ms).bind (at? path)
  | .index i :: path, .array xs => xs[i]?.bind (at? path)
  | _ :: _, _ => none

/-- The value `w` has everything that `v` has on its outside: a scalar is the same, a list
is as long, and an object has the members of `v` and beside them only such as `new` allows. -/
def Keeps (new : String → Prop) : Json → Json → Prop
  | .object ms, w => ∃ ns, w = .object ns ∧
      (∀ k, (member? k ms).isSome = true → (member? k ns).isSome = true) ∧
      ∀ k, member? k ms = none → (member? k ns).isSome = true → new k
  | .array xs, w => ∃ ys, w = .array ys ∧ ys.length = xs.length
  | v, w => w = v

end Json

open Json (Step member?)

namespace Response

/-! ## Which queries apply where -/

/-- Whether the results of a query appear under a name; a query without a name says nothing. -/
def GoesBy (k : String) (q : Query) : Prop := q.resultName = k ∧ k ≠ ""

instance (k : String) (q : Query) : Decidable (GoesBy k q) :=
  inferInstanceAs (Decidable (q.resultName = k ∧ k ≠ ""))

/-- The queries that are nested below those which go by a name. -/
def below (k : String) : List Query → List Query
  | [] => []
  | q :: rest => (if GoesBy k q then q.children else []) ++ below k rest

/-- The queries that apply at the end of a path, if `qs` apply at its start. -/
def along : List Step → List Query → List Query
  | [], qs => qs
  | .key k :: path, qs => along path (below k qs)
  | .index _ :: path, qs => along path qs

/-- The queries that apply where a path into a response ends. A response that is no object
is not filled at all. -/
def applicable (qs : List Query) : Json → List Step → List Query
  | .object _, path => along path qs
  | _, _ => []

/-- What comes under a name that an object lacks: the first fallback there is, filled by the
queries of that name behind it. -/
def inserted (k : String) : List Query → Option Json
  | [] => none
  | q :: rest =>
    if GoesBy k q then
      match q.fallback with
      | some value => some (mapObjects (fill (below k rest)) value)
      | none => inserted k rest
    else inserted k rest

/-! ## Objects of a value -/

section MapObjects

variable (f g : List (String × Json) → List (String × Json))

theorem mapItems_eq_map (xs : List Json) : mapObjects.mapItems f xs = xs.map (mapObjects f) := by
  induction xs with
  | nil => rfl
  | cons x rest ih => rw [mapObjects.mapItems, ih, List.map_cons]

mutual

/-- To replace the objects of a value twice is to replace each of them twice. -/
theorem mapObjects_mapObjects : ∀ v : Json,
    mapObjects f (mapObjects g v) = mapObjects (fun ms => f (g ms)) v
  | .object _ => rfl
  | .array xs => congrArg Json.array (mapItems_mapItems xs)
  | .null | .bool _ | .number _ | .string _ => rfl

theorem mapItems_mapItems : ∀ xs : List Json,
    mapObjects.mapItems f (mapObjects.mapItems g xs)
      = mapObjects.mapItems (fun ms => f (g ms)) xs
  | [] => rfl
  | x :: rest => by
    rw [mapObjects.mapItems, mapObjects.mapItems, mapObjects.mapItems, mapObjects_mapObjects x,
      mapItems_mapItems rest]

end

mutual

theorem mapObjects_self : ∀ v : Json, mapObjects (fun ms => ms) v = v
  | .object _ => rfl
  | .array xs => congrArg Json.array (mapItems_self xs)
  | .null | .bool _ | .number _ | .string _ => rfl

theorem mapItems_self : ∀ xs : List Json, mapObjects.mapItems (fun ms => ms) xs = xs
  | [] => rfl
  | x :: rest => by
    rw [mapObjects.mapItems, mapObjects_self x, mapItems_self rest]

end

end MapObjects

/-! ## One object -/

section Fill

variable {k : String} {ms : List (String × Json)}

theorem fill_append (qs rest : List Query) (ms : List (String × Json)) :
    fill (qs ++ rest) ms = fill rest (fill qs ms) := by
  induction qs generalizing ms with
  | nil => rw [List.nil_append, fill]
  | cons q qs ih => rw [List.cons_append, fill, fill, ih]

/-- Filling a value by two lists of queries in turn. -/
theorem mapObjects_fill_fill (qs rest : List Query) (v : Json) :
    mapObjects (fill rest) (mapObjects (fill qs) v) = mapObjects (fill (qs ++ rest)) v := by
  rw [mapObjects_mapObjects]
  exact congrArg (mapObjects · v) (funext fun ms => (fill_append qs rest ms).symm)

theorem mapObjects_fill_nil (v : Json) : mapObjects (fill []) v = v := by
  rw [show fill [] = fun ms => ms from funext fun ms => by rw [fill], mapObjects_self]

/-- What one query does to an object: nothing without a name, else it looks at the value
under its name. -/
theorem fillOne_eq (q : Query) (ms : List (String × Json)) :
    fillOne q ms =
      if q.resultName = "" then ms
      else
        match member? q.resultName ms, q.fallback with
        | some present, _ =>
          SortedEntries.insert q.resultName (mapObjects (fill q.children) present) ms
        | none, some value => SortedEntries.insert q.resultName value ms
        | none, none => ms := by
  obtain ⟨clause, fallback, children⟩ := q
  rw [fillOne.eq_def]
  exact ite_congr (propext String.isEmpty_iff) (fun _ => rfl) fun _ => rfl

theorem fillOne_of_some {q : Query} (hq : GoesBy k q) {v : Json} (h : member? k ms = some v) :
    fillOne q ms = SortedEntries.insert k (mapObjects (fill q.children) v) ms := by
  obtain ⟨rfl, hne⟩ := hq
  rw [fillOne_eq, if_neg hne, h]

theorem fillOne_of_none {q : Query} (hq : GoesBy k q) (h : member? k ms = none) :
    fillOne q ms = q.fallback.elim ms fun value => SortedEntries.insert k value ms := by
  obtain ⟨rfl, hne⟩ := hq
  rw [fillOne_eq, if_neg hne, h]
  cases q.fallback <;> rfl

/-- A query says nothing about other names than its own. -/
theorem member?_fillOne_of_not {q : Query} (hq : ¬ GoesBy k q) (ms : List (String × Json)) :
    member? k (fillOne q ms) = member? k ms := by
  rw [fillOne_eq]
  by_cases hname : q.resultName = ""
  · rw [if_pos hname]
  · have hne : k ≠ q.resultName := fun h => hq ⟨h.symm, h ▸ hname⟩
    rw [if_neg hname]
    split
    · exact SortedEntries.find?_insert_of_ne hne _ ms
    · exact SortedEntries.find?_insert_of_ne hne _ ms
    · rfl

/-- **A member of an object stays**, filled by the queries below those that go by its name. -/
theorem member?_fill_of_some (qs : List Query) {v : Json} (h : member? k ms = some v) :
    member? k (fill qs ms) = some (mapObjects (fill (below k qs)) v) := by
  induction qs generalizing ms v with
  | nil => rw [fill, below, mapObjects_fill_nil, h]
  | cons q rest ih =>
    rw [fill, below]
    by_cases hq : GoesBy k q
    · -- the queries of a name fill its member in turn, each what those before it left
      have hone : member? k (fillOne q ms) = some (mapObjects (fill q.children) v) := by
        rw [fillOne_of_some hq h]
        exact SortedEntries.find?_insert_self _ _ _
      rw [ih hone, if_pos hq, mapObjects_fill_fill]
    · have hsame : member? k (fillOne q ms) = some v := by rw [member?_fillOne_of_not hq, h]
      rw [ih hsame, if_neg hq, List.nil_append]

/-- **What an object lacks is added** as far as there is a fallback for it. -/
theorem member?_fill_of_none (qs : List Query) (h : member? k ms = none) :
    member? k (fill qs ms) = inserted k qs := by
  induction qs generalizing ms with
  | nil => rw [fill, inserted, h]
  | cons q rest ih =>
    rw [fill, inserted]
    by_cases hq : GoesBy k q
    · rw [if_pos hq, fillOne_of_none hq h]
      cases q.fallback with
      | none => exact ih h
      | some value =>
        -- from here on the member is there, and the queries behind find it like any other
        exact member?_fill_of_some rest (SortedEntries.find?_insert_self _ _ _)
    · rw [if_neg hq]
      exact ih (by rw [member?_fillOne_of_not hq, h])

end Fill

/-! ## Along a path -/

theorem mapObjects_array (f : List (String × Json) → List (String × Json)) (xs : List Json) :
    mapObjects f (.array xs) = .array (xs.map (mapObjects f)) :=
  congrArg Json.array (mapItems_eq_map f xs)

/-- What a value has at the end of a path is still there once the objects of the value are
filled, and is filled by the queries that apply there. -/
theorem at?_mapObjects_fill {path : List Step} {qs : List Query} {v w : Json}
    (h : v.at? path = some w) :
    (mapObjects (fill qs) v).at? path = some (mapObjects (fill (along path qs)) w) := by
  induction path generalizing qs v with
  | nil =>
    obtain rfl := Option.some.inj h
    rfl
  | cons step path ih =>
    cases step with
    | key k =>
      cases v with
      | object ms =>
        obtain ⟨u, hu, hw⟩ := Option.bind_eq_some_iff.1 h
        show (member? k (fill qs ms)).bind _ = _
        rw [member?_fill_of_some qs hu]
        exact ih hw
      | _ => exact absurd h (by simp [Json.at?])
    | index i =>
      cases v with
      | array xs =>
        obtain ⟨u, hu, hw⟩ := Option.bind_eq_some_iff.1 h
        rw [mapObjects_array]
        show ((xs.map (mapObjects (fill qs)))[i]?).bind _ = _
        rw [List.getElem?_map, hu]
        exact ih hw
      | _ => exact absurd h (by simp [Json.at?])

/-- **What a response has at the end of a path is there in the filled response**, filled by
the queries that apply there. -/
theorem at?_applyFallbacks (qs : List Query) {response v : Json} {path : List Step}
    (h : response.at? path = some v) :
    (applyFallbacks qs response).at? path
      = some (mapObjects (fill (applicable qs response path)) v) := by
  cases response with
  | object ms => exact at?_mapObjects_fill h
  | _ =>
    show Json.at? path _ = some (mapObjects (fill []) v)
    rw [mapObjects_fill_nil]
    exact h

/-! ## What is added -/

theorem exists_goesBy_of_inserted {k : String} {qs : List Query}
    (h : (inserted k qs).isSome = true) : ∃ q ∈ qs, GoesBy k q := by
  induction qs with
  | nil => exact absurd h (by simp [inserted])
  | cons q rest ih =>
    by_cases hq : GoesBy k q
    · exact ⟨q, List.mem_cons_self, hq⟩
    · rw [inserted, if_neg hq] at h
      obtain ⟨p, hp, hk⟩ := ih h
      exact ⟨p, List.mem_cons_of_mem _ hp, hk⟩

theorem isSome_inserted {k : String} {qs : List Query} {q : Query} (hmem : q ∈ qs)
    (hq : GoesBy k q) {value : Json} (hvalue : q.fallback = some value) :
    (inserted k qs).isSome = true := by
  induction qs with
  | nil => exact absurd hmem List.not_mem_nil
  | cons p rest ih =>
    rw [inserted]
    rcases List.mem_cons.1 hmem with rfl | hmem
    · rw [if_pos hq, hvalue]
      rfl
    · split
      · split
        · rfl
        · exact ih hmem
      · exact ih hmem

theorem below_eq_nil {k : String} {qs : List Query} (h : ∀ q ∈ qs, ¬ GoesBy k q) :
    below k qs = [] := by
  induction qs with
  | nil => rfl
  | cons q rest ih =>
    obtain ⟨hq, hrest⟩ := List.forall_mem_cons.1 h
    rw [below, if_neg hq, ih hrest, List.append_nil]

/-- A fallback whose name no other query has is added as it is. -/
theorem inserted_of_unique {k : String} {before after : List Query} {q : Query}
    (hq : GoesBy k q) {value : Json} (hvalue : q.fallback = some value)
    (hothers : ∀ p ∈ before ++ after, ¬ GoesBy k p) :
    inserted k (before ++ q :: after) = some value := by
  rw [List.forall_mem_append] at hothers
  obtain ⟨hbefore, hafter⟩ := hothers
  induction before with
  | nil =>
    rw [List.nil_append, inserted, if_pos hq, hvalue]
    dsimp only
    rw [below_eq_nil hafter, mapObjects_fill_nil]
  | cons p before ih =>
    obtain ⟨hp, hbefore⟩ := List.forall_mem_cons.1 hbefore
    rw [List.cons_append, inserted, if_neg hp, ih hbefore]

/-- An object keeps what it has, and what it is given goes by the name of a query. -/
theorem keeps_fill (qs : List Query) (v : Json) :
    v.Keeps (fun k => ∃ q ∈ qs, GoesBy k q) (mapObjects (fill qs) v) := by
  cases v with
  | object ms =>
    refine ⟨fill qs ms, rfl, fun k hk => ?_, fun k hk hadded => ?_⟩
    · obtain ⟨u, hu⟩ := Option.isSome_iff_exists.1 hk
      rw [member?_fill_of_some qs hu]
      rfl
    · rw [member?_fill_of_none qs hk] at hadded
      exact exists_goesBy_of_inserted hadded
  | array xs => exact ⟨xs.map (mapObjects (fill qs)), mapObjects_array _ xs, List.length_map _⟩
  | _ => rfl

/-- One step further, from an object to a member of it. -/
theorem at?_concat {v : Json} {path : List Step} {ms : List (String × Json)}
    (h : v.at? path = some (.object ms)) (k : String) :
    v.at? (path ++ [.key k]) = member? k ms := by
  induction path generalizing v with
  | nil =>
    obtain rfl := Option.some.inj h
    exact Option.bind_fun_some _
  | cons first path ih =>
    cases first with
    | key k =>
      cases v with
      | object ms =>
        obtain ⟨u, hu, hw⟩ := Option.bind_eq_some_iff.1 h
        show (member? k ms).bind _ = _
        rw [hu]
        exact ih hw
      | _ => exact absurd h (by simp [Json.at?])
    | index i =>
      cases v with
      | array xs =>
        obtain ⟨u, hu, hw⟩ := Option.bind_eq_some_iff.1 h
        show xs[i]?.bind _ = _
        rw [hu]
        exact ih hw
      | _ => exact absurd h (by simp [Json.at?])

/-- **Filling loses nothing and misses nothing.** Whatever a response has at the end of a
path, the filled response keeps: scalars are as they were, lists as long, objects have all
their members, and a member that is added goes by the name of a query that applies there.
And where an object stands, every fallback of a query that applies there is seen to: its name
is there, with the fallback itself if the object had nothing under this name and no other
query that applies there goes by it. -/
theorem applyFallbacks_extends (qs : List Query) {response v : Json} {path : List Step}
    (h : response.at? path = some v) :
    (∃ w, (applyFallbacks qs response).at? path = some w ∧
      v.Keeps (fun k => ∃ q ∈ applicable qs response path, GoesBy k q) w) ∧
    ∀ ms, v = .object ms → ∀ before q after,
      applicable qs response path = before ++ q :: after → q.resultName ≠ "" →
      ∀ fallback, q.fallback = some fallback →
        ∃ w, (applyFallbacks qs response).at? (path ++ [.key q.resultName]) = some w ∧
          (member? q.resultName ms = none →
            (∀ p ∈ before ++ after, p.resultName ≠ q.resultName) → w = fallback) := by
  have hfilled := at?_applyFallbacks qs h
  refine ⟨⟨_, hfilled, keeps_fill _ v⟩, ?_⟩
  rintro ms rfl before q after hqs hname fallback hfallback
  have hq : GoesBy q.resultName q := ⟨rfl, hname⟩
  have hmem : q ∈ applicable qs response path := by
    rw [hqs]
    exact List.mem_append_right _ List.mem_cons_self
  have hat : (applyFallbacks qs response).at? (path ++ [.key q.resultName])
      = member? q.resultName (fill (applicable qs response path) ms) :=
    at?_concat hfilled q.resultName
  rw [hat]
  -- a name that was there is not filled in, so nothing is said of its value
  cases hmember : member? q.resultName ms with
  | some u =>
    rw [member?_fill_of_some _ hmember]
    exact ⟨_, rfl, fun hnone => absurd hnone (by simp)⟩
  | none =>
    rw [member?_fill_of_none _ hmember]
    obtain ⟨w, hw⟩ := Option.isSome_iff_exists.1 (isSome_inserted hmem hq hfallback)
    refine ⟨w, hw, fun _ hothers => ?_⟩
    rw [hqs, inserted_of_unique hq hfallback fun p hp hgoes => hothers p hp hgoes.1] at hw
    exact (Option.some.inj hw).symm

/-- A query for a name or an age, with a fallback. -/
def scalar (attr : String) (fallback : Json) : Query :=
  { clause := { attr := attr }, fallback := some fallback }

/-- A query for friends that asks for their names, and one that asks for their ages. -/
def friendQueries : List Query :=
  [{ clause := { aliasName := "me" },
     children := [
      { clause := { attr := "friend" },
        fallback := some (.array []),
        children := [scalar "name" (.string "")] },
      { clause := { attr := "friend" },
        children := [scalar "age" (.ofNat 0)] }] }]

/-- A response in which somebody has a friend, of whom neither is known. -/
def friendResponse : Json :=
  .object [("me", .array [.array [
    .object [("friend", .array [.object [("uid", .string "0x02")]])]], .object []])]

/-- The friend's age is filled in, by the second of the queries. -/
theorem applyFallbacks_extends_friends :
    friendResponse.at? [.key "me", .index 0, .index 0, .key "friend", .index 0]
      = some (.object [("uid", .string "0x02")]) ∧
    (applyFallbacks friendQueries friendResponse).at?
        [.key "me", .index 0, .index 0, .key "friend", .index 0, .key "age"]
      = some (.ofNat 0) := by
  have hat : friendResponse.at? [.key "me", .index 0, .index 0, .key "friend", .index 0]
      = some (.object [("uid", .string "0x02")]) := rfl
  obtain ⟨w, hw, hfallback⟩ := (applyFallbacks_extends friendQueries hat).2 _ rfl
    [scalar "name" (.string "")] (scalar "age" (.ofNat 0)) [] rfl (by decide) _ rfl
  have hothers : ∀ p ∈ [scalar "name" (.string "")] ++ [],
      p.resultName ≠ (scalar "age" (.ofNat 0)).resultName := by
    intro p hp
    obtain rfl : p = scalar "name" (.string "") := by simpa using hp
    decide
  rw [hfallback rfl hothers] at hw
  exact ⟨hat, hw⟩

end Response

end Dql
