import Dql.Authorization
import Mathlib.Logic.ExistsUnique
import Mathlib.Logic.Relation

/-!
# The one path through an answer

Whether a proof holds is read off a single path through the store's answer: from an
object to its member `proof`, from a list to its first item (`GoesTo`). Every path ends,
and at one value only (`existsUnique_endsAt`), because no value leads to two others and
each step goes to a part of the value before.

`followProof` finds that end. A step does not change what it finds
(`followProof_of_goesTo`), and at a value that leads no further it answers with the text
or with the gap (`followProof_of_stuck`); what it says of a whole answer follows by
induction along the path. So nothing beside the path has a say.
-/

namespace Dql.Authorization

/-- One step along the path through an answer. -/
inductive GoesTo : Json → Json → Prop where
  /-- From an object to its member `proof`. -/
  | member {ms : List (String × Json)} {x : Json} (h : ms.lookup proofKey = some x) :
      GoesTo (.object ms) x
  /-- From a list to its first item. -/
  | first (x : Json) (rest : List Json) : GoesTo (.array (x :: rest)) x

/-- The path from `v` ends at `w`, which leads no further. -/
def EndsAt (v w : Json) : Prop := Relation.ReflTransGen GoesTo v w ∧ ∀ x, ¬ GoesTo w x

/-- Why there is no text at the end of a path, by the value that is there. -/
def gapAt? : Json → Option PathGap
  | .object _ => some .noKey
  | .array _ => some .emptyList
  | .null => some .null
  | .bool _ => some .boolean
  | .number _ => some .number
  | .string _ => none

/-- Two answers agree along the path, whatever else their objects and lists hold. -/
inductive AgreeOnPath : Json → Json → Prop where
  | refl (v : Json) : AgreeOnPath v v
  /-- Both go on through the member `proof`. -/
  | member {ms ns : List (String × Json)} {x y : Json} (hx : ms.lookup proofKey = some x)
      (hy : ns.lookup proofKey = some y) (h : AgreeOnPath x y) :
      AgreeOnPath (.object ms) (.object ns)
  /-- Neither has a member `proof`. -/
  | noMember {ms ns : List (String × Json)} (hms : ms.lookup proofKey = none)
      (hns : ns.lookup proofKey = none) : AgreeOnPath (.object ms) (.object ns)
  /-- Both go on through the first item. -/
  | first {x y : Json} (xs ys : List Json) (h : AgreeOnPath x y) :
      AgreeOnPath (.array (x :: xs)) (.array (y :: ys))

/-! ## The path -/

namespace GoesTo

theorem rightUnique : Relator.RightUnique GoesTo := by
  intro v w x hw hx
  cases hw with
  | member hw =>
    cases hx with
    | member hx => exact Option.some.inj (hw.symm.trans hx)
  | first =>
    cases hx with
    | first => rfl

theorem not_object {ms : List (String × Json)} (h : ms.lookup proofKey = none) (x : Json) :
    ¬ GoesTo (.object ms) x := by
  intro hx
  cases hx with
  | member hx =>
    rw [h] at hx
    exact absurd hx (by simp)

end GoesTo

namespace EndsAt

theorem self {v : Json} (h : ∀ x, ¬ GoesTo v x) : EndsAt v v := ⟨.refl, h⟩

theorem step {v w x : Json} (hw : GoesTo v w) (h : EndsAt w x) : EndsAt v x :=
  ⟨h.1.head hw, h.2⟩

theorem unique {v w x : Json} (hw : EndsAt v w) (hx : EndsAt v x) : w = x := by
  -- the one end is on the way to the other, and leads nowhere
  rcases hw.1.total_of_right_unique GoesTo.rightUnique hx.1 with h | h
  · rcases h.cases_head with h | ⟨y, hy, -⟩
    · exact h
    · exact absurd hy (hw.2 y)
  · rcases h.cases_head with h | ⟨y, hy, -⟩
    · exact h.symm
    · exact absurd hy (hx.2 y)

end EndsAt

mutual

theorem exists_endsAt : ∀ v : Json, ∃ w, EndsAt v w
  | .object ms => by
    cases h : ms.lookup proofKey with
    | none => exact ⟨_, .self (GoesTo.not_object h)⟩
    | some x =>
      obtain ⟨w, hw⟩ := exists_endsAt_of_lookup ms h
      exact ⟨w, hw.step (.member h)⟩
  | .array [] => ⟨_, .self nofun⟩
  | .array (x :: rest) => by
    obtain ⟨w, hw⟩ := exists_endsAt x
    exact ⟨w, hw.step (.first x rest)⟩
  | .null => ⟨_, .self nofun⟩
  | .bool _ => ⟨_, .self nofun⟩
  | .number _ => ⟨_, .self nofun⟩
  | .string _ => ⟨_, .self nofun⟩

theorem exists_endsAt_of_lookup : ∀ (ms : List (String × Json)) {x : Json},
    ms.lookup proofKey = some x → ∃ w, EndsAt x w
  | [], _, h => by simp at h
  | (k, y) :: rest, x, h => by
    rw [List.lookup_cons] at h
    split at h
    · obtain rfl := Option.some.inj h
      exact exists_endsAt y
    · exact exists_endsAt_of_lookup rest h

end

/-- Every answer has one path, and the path an end. -/
theorem existsUnique_endsAt (v : Json) : ∃! w, EndsAt v w := by
  obtain ⟨w, hw⟩ := exists_endsAt v
  exact ⟨w, hw, fun _ hx => hx.unique hw⟩

/-! ## What is found at its end -/

theorem followMember_eq (ms : List (String × Json)) :
    followMember ms = (ms.lookup proofKey).elim (.error .noKey) followProof := by
  induction ms with
  | nil => rfl
  | cons m rest ih =>
    obtain ⟨k, x⟩ := m
    rw [followMember, List.lookup_cons]
    by_cases hk : k = proofKey
    · rw [if_pos hk, hk, beq_self_eq_true]
      rfl
    · rw [if_neg hk, ih, beq_false_of_ne (Ne.symm hk)]

/-- A step along the path does not change what is found. -/
theorem followProof_of_goesTo {v w : Json} (h : GoesTo v w) : followProof v = followProof w := by
  cases h with
  | member h =>
    rw [followProof, followMember_eq, h]
    rfl
  | first => rw [followProof, followFirst]

theorem followProof_of_path {v w : Json} (h : Relation.ReflTransGen GoesTo v w) :
    followProof v = followProof w := by
  induction h with
  | refl => rfl
  | tail _ hstep ih => rw [ih, followProof_of_goesTo hstep]

/-- A value that leads no further answers with its text, or with the gap. -/
theorem followProof_of_stuck {w : Json} (h : ∀ x, ¬ GoesTo w x) :
    (∀ s, followProof w = .ok s ↔ w = .string s) ∧
      ∀ gap, followProof w = .error gap ↔ gapAt? w = some gap := by
  cases w with
  | object ms =>
    have hnone : ms.lookup proofKey = none := by
      cases hms : ms.lookup proofKey with
      | none => rfl
      | some x => exact absurd (GoesTo.member hms) (h x)
    rw [followProof, followMember_eq, hnone]
    simp [gapAt?]
  | array items =>
    cases items with
    | nil => simp [followProof, followFirst, gapAt?]
    | cons x rest => exact absurd (GoesTo.first x rest) (h x)
  | null | bool | number | string => simp [followProof, gapAt?]

theorem followProof_of_agree {v v' : Json} (h : AgreeOnPath v v') :
    followProof v' = followProof v := by
  induction h with
  | refl v => rfl
  | member hx hy _ ih =>
    rw [followProof_of_goesTo (.member hx), followProof_of_goesTo (.member hy), ih]
  | noMember hms hns =>
    rw [followProof, followProof, followMember_eq, followMember_eq, hms, hns]
  | first xs ys _ ih =>
    rw [followProof_of_goesTo (.first _ xs), followProof_of_goesTo (.first _ ys), ih]

/-- **An answer is read along one path.** The path has one end; a text is found exactly if it
stands there, and a gap exactly if it is that of the value there, which is the first on the
path that leads no further. Answers that agree along the path are read alike. -/
theorem followProof_reads_path (v : Json) :
    (∃! w, EndsAt v w) ∧
      (∀ s, followProof v = .ok s ↔ EndsAt v (.string s)) ∧
      (∀ gap, followProof v = .error gap ↔ ∃ w, EndsAt v w ∧ gapAt? w = some gap) ∧
      ∀ v', AgreeOnPath v v' → followProof v' = followProof v := by
  obtain ⟨w, hw⟩ := exists_endsAt v
  obtain ⟨htext, hgap⟩ := followProof_of_stuck hw.2
  refine ⟨existsUnique_endsAt v, fun s => ?_, fun gap => ?_, fun _ => followProof_of_agree⟩
  · rw [followProof_of_path hw.1, htext]
    constructor
    · rintro rfl
      exact hw
    · exact hw.unique
  · rw [followProof_of_path hw.1, hgap]
    constructor
    · exact fun h => ⟨w, hw, h⟩
    · rintro ⟨x, hx, h⟩
      rwa [hw.unique hx]

/-- An answer whose path goes through an object, a list and another object. -/
def answerWithDetours : Json :=
  .object [("also", .null),
    ("proof", .array [.object [("proof", .string "0x02")], .string "0x03"])]

/-- The same path with nothing beside it. -/
def answerOfOnePath : Json :=
  .object [("proof", .array [.object [("proof", .string "0x02")]])]

theorem followProof_reads_path_detours :
    AgreeOnPath answerWithDetours answerOfOnePath ∧
      EndsAt answerWithDetours (.string "0x02") ∧
      followProof answerOfOnePath = followProof answerWithDetours := by
  have hagree : AgreeOnPath answerWithDetours answerOfOnePath :=
    .member rfl rfl (.first _ _ (.refl _))
  obtain ⟨-, htext, -, hread⟩ := followProof_reads_path answerWithDetours
  exact ⟨hagree, (htext "0x02").1 rfl, hread _ hagree⟩

end Dql.Authorization
