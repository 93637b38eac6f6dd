import Dql.Proofs.Json.Reading
import Dql.Proofs.Response.Filling
import Dql.Proofs.Table
import Dql.Query.Difference

/-!
# Places at which two values differ

Two values differ at places: a place is reached on both sides by the same steps, through
objects with a missing member standing for `null` and through lists by the items that both
have, and at its end there are two values that cannot be looked into any further and are
not the same, or two lists of different lengths (`DiffersAt`). Places are passed depth
first: members in the order of their keys, items in the order of the list, and the length
of a list behind all that is in it (`Before`).

What is reported of a set of differences is the first of them, if there is one (`Reports`).
A report on the whole can be put together from reports on parts: of two parts the one that
goes first is asked first (`Reports.or`).
-/

namespace Dql

namespace Json

open SortedEntries (Sorted)

theorem Ordered.items {xs : List Json} (h : (array xs).Ordered) : ∀ x ∈ xs, x.Ordered := by
  unfold Ordered at h
  rw [sortKeys, sortItems_eq_map, array.injEq] at h
  exact fun x hx => List.map_inj_left.1 (h.trans (List.map_id xs).symm) x hx

theorem Ordered.members {ms : List (String × Json)} (h : (object ms).Ordered) :
    Sorted ms ∧ ∀ m ∈ ms, m.2.Ordered := by
  unfold Ordered at h
  rw [sortKeys, object.injEq] at h
  have hsorted : Sorted ms := h ▸ SortedEntries.sorted_ofList (sortMembers ms)
  have hmembers : Sorted (sortMembers ms) := by
    rw [sortMembers_eq_map]
    unfold SortedEntries.Sorted at hsorted ⊢
    rwa [List.pairwise_map]
  rw [SortedEntries.ofList_eq_self hmembers, sortMembers_eq_map] at h
  refine ⟨hsorted, fun m hm => ?_⟩
  exact congrArg Prod.snd (List.map_inj_left.1 (h.trans (List.map_id ms).symm) m hm)

/-- The member of an object under a key, `null` where there is none. -/
def memberOrNull (key : String) (ms : List (String × Json)) : Json := (member? key ms).getD .null

theorem memberOrNull_of_ne {key : String} {ms : List (String × Json)}
    (h : ∀ m ∈ ms, m.1 ≠ key) : memberOrNull key ms = .null := by
  unfold memberOrNull member?
  rw [SortedEntries.find?_eq_none_iff.2 h, Option.getD_none]

theorem memberOrNull_cons_self (key : String) (x : Json) (ms : List (String × Json)) :
    memberOrNull key ((key, x) :: ms) = x := by
  unfold memberOrNull member?
  rw [SortedEntries.find?_cons_self (key, x) ms, Option.getD_some]

theorem memberOrNull_cons_of_ne {key k : String} (h : k ≠ key) (x : Json)
    (ms : List (String × Json)) : memberOrNull key ((k, x) :: ms) = memberOrNull key ms := by
  unfold memberOrNull member?
  rw [SortedEntries.find?_cons_of_ne h]

theorem memberOrNull_append_left {key : String} {ms : List (String × Json)}
    (h : ∀ m ∈ ms, m.1 ≠ key) (ns : List (String × Json)) :
    memberOrNull key (ms ++ ns) = memberOrNull key ns := by
  unfold memberOrNull member?
  rw [SortedEntries.find?_append, SortedEntries.find?_eq_none_iff.2 h, Option.none_or]

theorem memberOrNull_append_right {key : String} {ns : List (String × Json)}
    (h : ∀ n ∈ ns, n.1 ≠ key) (ms : List (String × Json)) :
    memberOrNull key (ms ++ ns) = memberOrNull key ms := by
  unfold memberOrNull member?
  rw [SortedEntries.find?_append, SortedEntries.find?_eq_none_iff.2 h, Option.or_none]

/-! ## Places -/

/-- What is found at a place where two values differ. -/
inductive Mismatch where
  | values (expected parsed : Json)
  | lengths (expected parsed : Nat)

/-- The description of a mismatch, as it follows the path. -/
def Mismatch.text : Mismatch → String
  | values e p => s!": expected {e.compact}, parsed {p.compact}"
  | lengths m n => s!": expected {m} entries, parsed {n}"

/-- Two values that are compared part by part: two objects, or two lists. -/
inductive LookedInto : Json → Json → Prop where
  | objects (ms ns : List (String × Json)) : LookedInto (object ms) (object ns)
  | arrays (xs ys : List Json) : LookedInto (array xs) (array ys)

/-- Two values differ at a place below them. -/
inductive DiffersAt : Json → Json → List Step → Mismatch → Prop where
  | values {e p : Json} (hinto : ¬ LookedInto e p) (h : e.same p = false) :
      DiffersAt e p [] (.values e p)
  | lengths {xs ys : List Json} (h : xs.length ≠ ys.length) :
      DiffersAt (array xs) (array ys) [] (.lengths xs.length ys.length)
  | member {ms ns : List (String × Json)} {place : List Step} {m : Mismatch} (k : String)
      (h : DiffersAt (memberOrNull k ms) (memberOrNull k ns) place m) :
      DiffersAt (object ms) (object ns) (.key k :: place) m
  | item {xs ys : List Json} {x y : Json} {place : List Step} {m : Mismatch} {i : Nat}
      (hx : xs[i]? = some x) (hy : ys[i]? = some y) (h : DiffersAt x y place m) :
      DiffersAt (array xs) (array ys) (.index i :: place) m

/-- The order in which places are passed. -/
inductive Before : List Step → List Step → Prop where
  /-- What is in a list comes before its length. -/
  | inside (s : Step) (place : List Step) : Before (s :: place) []
  | key {k l : String} (h : compare k l = .lt) (place place' : List Step) :
      Before (.key k :: place) (.key l :: place')
  | index {i j : Nat} (h : i < j) (place place' : List Step) :
      Before (.index i :: place) (.index j :: place')
  | deeper (s : Step) {place place' : List Step} (h : Before place place') :
      Before (s :: place) (s :: place')

theorem differText_eq (path : String) (e p : Json) :
    differText path e p = path ++ (Mismatch.values e p).text := by
  simp only [differText, Mismatch.text, toString, String.append_assoc]

theorem lengthsText_eq (path : String) (m n : Nat) :
    s!"{path}: expected {m} entries, parsed {n}" = path ++ (Mismatch.lengths m n).text := by
  simp only [Mismatch.text, toString, String.append_assoc]

/-- The path of a place below another. -/
def pathText (path : String) : List Step → String
  | [] => path
  | .key k :: place => pathText (path ++ "." ++ k) place
  | .index i :: place => pathText s!"{path}[{i}]" place

theorem Before.asymm {place place' : List Step} (h : Before place place') :
    ¬ Before place' place := by
  induction h with
  | inside => nofun
  | key h =>
    intro h'
    cases h' with
    | key h' => exact absurd (Std.OrientedCmp.gt_iff_lt.2 h') (by rw [h]; decide)
    | deeper _ _ => exact absurd rfl (SortedEntries.ne_of_lt h)
  | index h =>
    intro h'
    cases h' with
    | index h' => omega
    | deeper _ _ => omega
  | deeper s _ ih =>
    intro h'
    cases h' with
    | key h' => exact absurd rfl (SortedEntries.ne_of_lt h')
    | index h' => omega
    | deeper _ h' => exact ih h'

/-! ## What is reported of a set of differences -/

/-- The differences that a part of the comparison goes through. -/
abbrev Differences := List Step → Mismatch → Prop

/-- A difference that stands before all others. -/
def IsFirst (D : Differences) (place : List Step) (m : Mismatch) : Prop :=
  D place m ∧ ∀ place' m', D place' m' → (place' = place ∧ m' = m) ∨ Before place place'

theorem IsFirst.unique {D : Differences} {place place' : List Step} {m m' : Mismatch}
    (h : IsFirst D place m) (h' : IsFirst D place' m') : place' = place ∧ m' = m := by
  rcases h.2 place' m' h'.1 with heq | hbefore
  · exact heq
  · rcases h'.2 place m h.1 with ⟨rfl, rfl⟩ | hafter
    · exact ⟨rfl, rfl⟩
    · exact absurd hafter hbefore.asymm

/-- A description is that of the first difference, and there is none if nothing is described. -/
def Reports (path : String) (D : Differences) : Option String → Prop
  | none => ∀ place m, ¬ D place m
  | some text => ∃ place m, IsFirst D place m ∧ text = pathText path place ++ m.text

/-- The differences below a step. -/
def under (s : Step) (D : Differences) : Differences := fun place m =>
  ∃ rest, place = s :: rest ∧ D rest m

namespace Reports

variable {path : String} {D D' D₁ D₂ : Differences} {o o₁ o₂ : Option String}

theorem congr (h : Reports path D o) (hD : ∀ place m, D' place m ↔ D place m) :
    Reports path D' o := by
  obtain rfl : D' = D := funext fun place => funext fun m => propext (hD place m)
  exact h

/-- Of two parts the one that goes first is asked first. -/
theorem or (h₁ : Reports path D₁ o₁) (h₂ : Reports path D₂ o₂)
    (hbefore : ∀ place m place' m', D₁ place m → D₂ place' m' → Before place place') :
    Reports path (fun place m => D₁ place m ∨ D₂ place m) (o₁.or o₂) := by
  cases o₁ with
  | none =>
    refine h₂.congr fun place m => ?_
    exact or_iff_right (h₁ place m)
  | some text =>
    obtain ⟨place, m, ⟨hD, hfirst⟩, rfl⟩ := h₁
    refine ⟨place, m, ⟨.inl hD, ?_⟩, rfl⟩
    rintro place' m' (h' | h')
    · exact hfirst place' m' h'
    · exact .inr (hbefore place m place' m' hD h')

theorem under (s : Step) (h : Reports (pathText path [s]) D o) :
    Reports path (under s D) o := by
  cases o with
  | none =>
    rintro place m ⟨rest, -, hD⟩
    exact h rest m hD
  | some text =>
    obtain ⟨place, m, ⟨hD, hfirst⟩, rfl⟩ := h
    refine ⟨s :: place, m, ⟨⟨place, rfl, hD⟩, ?_⟩, by cases s <;> rfl⟩
    rintro place' m' ⟨rest, rfl, hD'⟩
    rcases hfirst rest m' hD' with ⟨rfl, rfl⟩ | hbefore
    · exact .inl ⟨rfl, rfl⟩
    · exact .inr (.deeper _ hbefore)

/-- One difference, found at the path itself unless a condition holds. -/
theorem here (path : String) (p : Prop) [Decidable p] (found : Mismatch) :
    Reports path (fun place m => place = [] ∧ m = found ∧ ¬ p)
      (if p then none else some (path ++ found.text)) := by
  split
  next hp => exact fun _ _ hno => hno.2.2 hp
  next hp =>
    refine ⟨[], found, ⟨⟨rfl, rfl, hp⟩, ?_⟩, rfl⟩
    rintro _ _ ⟨rfl, rfl, -⟩
    exact .inl ⟨rfl, rfl⟩

theorem eq_none_iff (h : Reports path D o) : o = none ↔ ∀ place m, ¬ D place m := by
  cases o with
  | none => exact iff_of_true rfl h
  | some text =>
    obtain ⟨place, m, hfirst, -⟩ := h
    exact iff_of_false nofun fun hno => hno place m hfirst.1

theorem eq_some_iff {text : String} (h : Reports path D o) :
    o = some text ↔ ∃ place m, IsFirst D place m ∧ text = pathText path place ++ m.text := by
  cases o with
  | none => exact iff_of_false nofun fun ⟨place, m, hfirst, _⟩ => h place m hfirst.1
  | some text' =>
    obtain ⟨place, m, hfirst, rfl⟩ := h
    rw [Option.some.injEq]
    constructor
    · rintro rfl
      exact ⟨place, m, hfirst, rfl⟩
    · rintro ⟨place', m', hfirst', rfl⟩
      obtain ⟨rfl, rfl⟩ := hfirst.unique hfirst'
      rfl

end Reports

end Json

end Dql
