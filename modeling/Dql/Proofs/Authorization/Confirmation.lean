import Dql.Authorization

/-!
# A requester is allowed exactly what its proofs confirm

`Authorization.allows` is described without its recursion. What a list of queries
needs can be read off the queries alone: each is a lookup (`IsLookup`), and each
identifier in it that is not the requester's (`foreignIds`, in the order of the
document, repeats included) has a proof that is a lookup of the requester's own
node (`Admissible`). What the store says is an index condition: the answer to the
`i`-th call leads to the `i`-th identifier (`ConfirmedInTurn`).

* Queries that are not admissible are refused before the store is asked.
* The others are allowed exactly if all identifiers are confirmed in turn, with one
  call each; otherwise the check stops at the first that is not, and `StopsAt`
  lists how: refused only if the answer leads to another identifier, an error with
  the identifier's name in every other case.

The step lemma is `confirmAll_cons`, what a run makes of it `confirmAll_cases`.
-/

namespace Dql

/-! ## Calls in the log -/

namespace Log

/-- The log after texts were put to the store one by one, without variables. -/
def asking (l : Log) (texts : List String) : Log :=
  ⟨l.questions ++ texts.map fun t => .execute ⟨t, .empty⟩⟩

@[simp] theorem asking_nil (l : Log) : l.asking [] = l := by
  simp [asking]

theorem add_execute (l : Log) (text : String) :
    l.add (.execute ⟨text, .empty⟩) = l.asking [text] := rfl

theorem asking_asking (l : Log) (ts us : List String) :
    (l.asking ts).asking us = l.asking (ts ++ us) := by
  simp [asking]

theorem asking_cons (l : Log) (t : String) (ts : List String) :
    l.asking (t :: ts) = (l.asking [t]).asking ts := by
  rw [asking_asking]
  rfl

theorem executed_asking (l : Log) (ts : List String) :
    (l.asking ts).executed = l.executed ++ ts.map fun t => ⟨t, .empty⟩ := by
  induction ts generalizing l with
  | nil => simp
  | cons t ts ih =>
    rw [asking_cons, ih, ← add_execute, executed_add_execute]
    simp

end Log

namespace Authorization

/-! ## What queries need -/

/-- A query looks up the identifiers on it: its call is `uid` without anything of its
own, and it has no attribute. -/
def IsLookup (q : Query) : Prop :=
  q.clause.call = some { name := "uid" } ∧ q.clause.attr = ""

theorem isPlainLookup_iff {q : Query} : isPlainLookup q = true ↔ IsLookup q := by
  unfold isPlainLookup IsLookup lookupCall
  rw [Bool.and_eq_true, beq_iff_eq, String.isEmpty_iff]

theorem isRootedAt_iff {identity : Uid} {q : Query} :
    isRootedAt identity q = true ↔ IsLookup q ∧ q.clause.ids = [identity] := by
  unfold isRootedAt
  rw [Bool.and_eq_true, isPlainLookup_iff, beq_iff_eq]

/-- The identifiers in queries other than the requester's own, in the order of the
document, as often as they occur. -/
def foreignIds (identity : Uid) (queries : List Query) : List Uid :=
  (queries.flatMap fun q => q.clause.ids).filter (· ≠ identity)

/-- An identifier has a proof that looks up the requester's own node and nothing else. -/
def HasRootedProof (identity : Uid) (proofs : Table Uid Query) (u : Uid) : Prop :=
  ∃ p, proofs.find? u = some p ∧ IsLookup p ∧ p.clause.ids = [identity]

/-- Queries that may be allowed if the store confirms it. -/
structure Admissible (identity : Uid) (proofs : Table Uid Query) (queries : List Query) :
    Prop where
  lookups : ∀ q ∈ queries, IsLookup q
  rooted : ∀ u ∈ foreignIds identity queries, HasRootedProof identity proofs u

/-- The proofs listed are those of the identifiers listed. -/
def Supplies (identity : Uid) (proofs : Table Uid Query) (us : List Uid)
    (pending : List (Uid × Query)) : Prop :=
  pending.map (·.1) = us ∧
    ∀ e ∈ pending, proofs.find? e.1 = some e.2 ∧ isRootedAt identity e.2 = true

section Pending

variable {identity : Uid} {proofs : Table Uid Query}

theorem Supplies.append {us vs : List Uid} {ps qs : List (Uid × Query)}
    (hp : Supplies identity proofs us ps) (hq : Supplies identity proofs vs qs) :
    Supplies identity proofs (us ++ vs) (ps ++ qs) := by
  refine ⟨by rw [List.map_append, hp.1, hq.1], fun e he => ?_⟩
  rcases List.mem_append.1 he with h | h
  · exact hp.2 e h
  · exact hq.2 e h

theorem Supplies.hasRootedProof {us : List Uid} {pending : List (Uid × Query)}
    (h : Supplies identity proofs us pending) : ∀ u ∈ us, HasRootedProof identity proofs u := by
  intro u hu
  rw [← h.1] at hu
  obtain ⟨e, he, rfl⟩ := List.mem_map.1 hu
  obtain ⟨hfind, hroot⟩ := h.2 e he
  obtain ⟨hlookup, hids⟩ := isRootedAt_iff.1 hroot
  exact ⟨e.2, hfind, hlookup, hids⟩

theorem proofsFor?_eq_some {ids : List Uid} {pending : List (Uid × Query)}
    (h : proofsFor? identity proofs ids = some pending) :
    Supplies identity proofs (ids.filter (· ≠ identity)) pending := by
  induction ids generalizing pending with
  | nil =>
    obtain rfl := Option.some.inj h
    exact ⟨rfl, fun e he => absurd he List.not_mem_nil⟩
  | cons u rest ih =>
    rw [proofsFor?] at h
    by_cases hu : u = identity
    · rw [if_pos hu] at h
      rw [List.filter_cons_of_neg (by simpa using hu)]
      exact ih h
    · rw [if_neg hu] at h
      rw [List.filter_cons_of_pos (by simpa using hu)]
      cases hfind : proofs.find? u with
      | none => rw [hfind] at h; simp at h
      | some p =>
        rw [hfind] at h
        by_cases hroot : isRootedAt identity p = true
        · simp only [hroot, if_true] at h
          obtain ⟨ps, hps, rfl⟩ := Option.map_eq_some_iff.1 h
          obtain ⟨hmap, hall⟩ := ih hps
          refine ⟨by rw [List.map_cons, hmap], fun e he => ?_⟩
          rcases List.mem_cons.1 he with rfl | he
          · exact ⟨hfind, hroot⟩
          · exact hall e he
        · simp [hroot] at h

theorem proofsFor?_eq_none {ids : List Uid} (h : proofsFor? identity proofs ids = none) :
    ∃ u ∈ ids.filter (· ≠ identity), ¬ HasRootedProof identity proofs u := by
  induction ids with
  | nil => simp [proofsFor?] at h
  | cons u rest ih =>
    rw [proofsFor?] at h
    by_cases hu : u = identity
    · rw [if_pos hu] at h
      rw [List.filter_cons_of_neg (by simpa using hu)]
      exact ih h
    · rw [if_neg hu] at h
      rw [List.filter_cons_of_pos (by simpa using hu)]
      cases hfind : proofs.find? u with
      | none =>
        refine ⟨u, List.mem_cons_self, ?_⟩
        rintro ⟨p, hp, -⟩
        rw [hfind] at hp
        simp at hp
      | some p =>
        rw [hfind] at h
        by_cases hroot : isRootedAt identity p = true
        · simp only [hroot, if_true, Option.map_eq_none_iff] at h
          obtain ⟨v, hv, hno⟩ := ih h
          exact ⟨v, List.mem_cons_of_mem _ hv, hno⟩
        · refine ⟨u, List.mem_cons_self, ?_⟩
          rintro ⟨p', hp', hlookup, hids⟩
          rw [hfind] at hp'
          obtain rfl := Option.some.inj hp'
          exact hroot (isRootedAt_iff.2 ⟨hlookup, hids⟩)

theorem foreignIds_cons (q : Query) (rest : List Query) :
    foreignIds identity (q :: rest)
      = q.clause.ids.filter (· ≠ identity) ++ foreignIds identity rest := by
  unfold foreignIds
  rw [List.flatMap_cons, List.filter_append]

theorem admissible_cons {q : Query} {rest : List Query} :
    Admissible identity proofs (q :: rest) ↔
      IsLookup q ∧ (∀ u ∈ q.clause.ids.filter (· ≠ identity), HasRootedProof identity proofs u) ∧
        Admissible identity proofs rest := by
  constructor
  · rintro ⟨hlookups, hrooted⟩
    rw [foreignIds_cons, List.forall_mem_append] at hrooted
    rw [List.forall_mem_cons] at hlookups
    exact ⟨hlookups.1, hrooted.1, hlookups.2, hrooted.2⟩
  · rintro ⟨hq, hids, hlookups, hrooted⟩
    refine ⟨List.forall_mem_cons.2 ⟨hq, hlookups⟩, ?_⟩
    rw [foreignIds_cons, List.forall_mem_append]
    exact ⟨hids, hrooted⟩

/-- The proofs to run are those of the foreign identifiers, of admissible queries only. -/
theorem pendingProofs?_eq_some {queries : List Query} {pending : List (Uid × Query)}
    (h : pendingProofs? identity proofs queries = some pending) :
    Admissible identity proofs queries ∧
      Supplies identity proofs (foreignIds identity queries) pending := by
  induction queries generalizing pending with
  | nil =>
    obtain rfl := Option.some.inj h
    exact ⟨⟨fun q hq => absurd hq List.not_mem_nil, fun u hu => absurd hu List.not_mem_nil⟩,
      rfl, fun e he => absurd he List.not_mem_nil⟩
  | cons q rest ih =>
    rw [pendingProofs?] at h
    by_cases hq : isPlainLookup q = true
    · rw [if_pos hq] at h
      cases hfor : proofsFor? identity proofs q.clause.ids with
      | none => rw [hfor] at h; simp at h
      | some ps =>
        rw [hfor] at h
        obtain ⟨qs, hqs, rfl⟩ := Option.map_eq_some_iff.1 h
        obtain ⟨hadm, hsup⟩ := ih hqs
        have hps := proofsFor?_eq_some hfor
        rw [foreignIds_cons]
        exact ⟨admissible_cons.2 ⟨isPlainLookup_iff.1 hq, hps.hasRootedProof, hadm⟩,
          hps.append hsup⟩
    · rw [if_neg hq] at h
      simp at h

/-- Queries without proofs to run are not admissible. -/
theorem pendingProofs?_eq_none {queries : List Query}
    (h : pendingProofs? identity proofs queries = none) :
    ¬ Admissible identity proofs queries := by
  induction queries with
  | nil => simp [pendingProofs?] at h
  | cons q rest ih =>
    rw [admissible_cons]
    rintro ⟨hq, hids, hadm⟩
    rw [pendingProofs?, if_pos (isPlainLookup_iff.2 hq)] at h
    cases hfor : proofsFor? identity proofs q.clause.ids with
    | none =>
      obtain ⟨u, hu, hno⟩ := proofsFor?_eq_none hfor
      exact hno (hids u hu)
    | some ps =>
      rw [hfor] at h
      exact ih (Option.map_eq_none_iff.1 h) hadm

end Pending

/-! ## What an answer says -/

/-- An answer is JSON whose path ends in a text that reads as an identifier. -/
def LeadsTo (body : ByteArray) (v : Uid) : Prop :=
  ∃ answer value, Json.ofBytes? body = some answer ∧ followProof answer = .ok value ∧
    Uid.parse? value = .ok v

/-- An answer confirms an identifier exactly if it leads to it. -/
theorem confirms_eq_ok_true_iff {u : Uid} {body : ByteArray} :
    confirms u body = .ok true ↔ LeadsTo body u := by
  constructor
  · intro h
    unfold confirms at h
    cases hjson : Json.ofBytes? body with
    | none => rw [hjson] at h; simp at h
    | some answer =>
      rw [hjson] at h
      dsimp only at h
      cases hpath : followProof answer with
      | error g => rw [hpath] at h; simp at h
      | ok value =>
        rw [hpath] at h
        dsimp only at h
        cases hparse : Uid.parse? value with
        | error e => rw [hparse] at h; simp at h
        | ok v =>
          rw [hparse] at h
          obtain rfl : v = u := by simpa using h
          exact ⟨answer, value, hjson, hpath, hparse⟩
  · rintro ⟨answer, value, hjson, hpath, hparse⟩
    unfold confirms
    rw [hjson]
    dsimp only
    rw [hpath]
    dsimp only
    rw [hparse]
    simp

/-- The text of the proof for an identifier, written alone. -/
def ProofText (proofs : Table Uid Query) (u : Uid) (text : String) : Prop :=
  ∃ p, proofs.find? u = some p ∧ Block.render { queries := [p] } = .ok text

/-- How a check ends at an identifier that is not confirmed, all that was asked before
being `past`. A proof without text is not asked; any other is, once. -/
inductive StopsAt (store : Store) (past : Log) (proofs : Table Uid Query) (u : Uid) :
    Run ProofError Bool → Prop where
  /-- The proof has no text. -/
  | unwritten {p : Query} {e : RenderError} (hfind : proofs.find? u = some p)
      (hrender : Block.render { queries := [p] } = .error e) :
      StopsAt store past proofs u ⟨.error ⟨u, .render e⟩, past⟩
  /-- The store fails or takes too long. -/
  | unanswered {text : String} {e : StoreError} (htext : ProofText proofs u text)
      (hstore : store past ⟨text, .empty⟩ = .error e) :
      StopsAt store past proofs u ⟨.error ⟨u, .store e⟩, past.asking [text]⟩
  /-- The answer is no JSON. -/
  | noJson {text : String} {body : ByteArray} (htext : ProofText proofs u text)
      (hstore : store past ⟨text, .empty⟩ = .ok body) (hjson : Json.ofBytes? body = none) :
      StopsAt store past proofs u ⟨.error ⟨u, .response⟩, past.asking [text]⟩
  /-- The path through the answer has a gap. -/
  | gap {text : String} {body : ByteArray} {answer : Json} {g : PathGap}
      (htext : ProofText proofs u text) (hstore : store past ⟨text, .empty⟩ = .ok body)
      (hjson : Json.ofBytes? body = some answer) (hgap : followProof answer = .error g) :
      StopsAt store past proofs u ⟨.error ⟨u, .malformed g⟩, past.asking [text]⟩
  /-- The path ends in a text that is no identifier. -/
  | noIdentifier {text : String} {body : ByteArray} {answer : Json} {value : String}
      {e : Uid.ParseError} (htext : ProofText proofs u text)
      (hstore : store past ⟨text, .empty⟩ = .ok body) (hjson : Json.ofBytes? body = some answer)
      (hpath : followProof answer = .ok value) (hparse : Uid.parse? value = .error e) :
      StopsAt store past proofs u ⟨.error ⟨u, .invalidIdentifier value e⟩, past.asking [text]⟩
  /-- The path ends in another identifier: the only way to be refused here. -/
  | elsewhere {text : String} {body : ByteArray} {v : Uid} (htext : ProofText proofs u text)
      (hstore : store past ⟨text, .empty⟩ = .ok body) (hleads : LeadsTo body v) (hne : v ≠ u) :
      StopsAt store past proofs u ⟨.ok false, past.asking [text]⟩

/-- Each identifier is confirmed by the answer to its own proof: the `i`-th text is the
proof of the `i`-th identifier, and what the store answers to it, having been asked the
texts in front of it, leads to that identifier. -/
def ConfirmedInTurn (store : Store) (past : Log) (proofs : Table Uid Query) (us : List Uid)
    (texts : List String) : Prop :=
  texts.length = us.length ∧
    ∀ (i : Nat) (u : Uid) (text : String), us[i]? = some u → texts[i]? = some text →
      ProofText proofs u text ∧
        ∃ body, store (past.asking (texts.take i)) ⟨text, .empty⟩ = .ok body ∧ LeadsTo body u

section Confirmation

variable {store : Store} {past : Log} {proofs : Table Uid Query}

theorem confirmedInTurn_nil {texts : List String} :
    ConfirmedInTurn store past proofs [] texts ↔ texts = [] := by
  constructor
  · intro h
    exact List.eq_nil_of_length_eq_zero h.1
  · rintro rfl
    exact ⟨rfl, fun i u text hu => absurd hu (by simp)⟩

theorem confirmedInTurn_cons {u : Uid} {us : List Uid} {texts : List String} :
    ConfirmedInTurn store past proofs (u :: us) texts ↔
      ∃ text rest body, texts = text :: rest ∧ ProofText proofs u text ∧
        store past ⟨text, .empty⟩ = .ok body ∧ LeadsTo body u ∧
        ConfirmedInTurn store (past.asking [text]) proofs us rest := by
  constructor
  · rintro ⟨hlen, hall⟩
    cases texts with
    | nil => simp at hlen
    | cons text rest =>
      obtain ⟨htext, body, hbody, hleads⟩ := hall 0 u text rfl rfl
      refine ⟨text, rest, body, rfl, htext, by simpa using hbody, hleads, ?_, ?_⟩
      · simpa using hlen
      · -- the log in front of the next text has the first one in it
        intro i v t hv ht
        obtain ⟨ht', b, hb, hl⟩ := hall (i + 1) v t (by simpa using hv) (by simpa using ht)
        refine ⟨ht', b, ?_, hl⟩
        rw [List.take_succ_cons, Log.asking_cons] at hb
        exact hb
  · rintro ⟨text, rest, body, rfl, htext, hbody, hleads, hlen, hall⟩
    refine ⟨by simpa using hlen, fun i v t hv ht => ?_⟩
    cases i with
    | zero =>
      obtain rfl : u = v := by simpa using hv
      obtain rfl : text = t := by simpa using ht
      exact ⟨htext, body, by simpa using hbody, hleads⟩
    | succ i =>
      obtain ⟨ht', b, hb, hl⟩ := hall i v t (by simpa using hv) (by simpa using ht)
      refine ⟨ht', b, ?_, hl⟩
      rw [List.take_succ_cons, Log.asking_cons]
      exact hb

/-- What a check that stops says is never yes. -/
theorem StopsAt.outcome_ne_true {u : Uid} {run : Run ProofError Bool}
    (h : StopsAt store past proofs u run) : run.outcome ≠ .ok true := by
  cases h <;> simp

theorem inquiryFor_eq_ok {p : Query} {i : Inquiry} (h : inquiryFor p = .ok i) :
    Block.render { queries := [p] } = .ok i.text ∧ i.values = .empty := by
  unfold inquiryFor at h
  cases hr : Block.render { queries := [p] } with
  | error e => rw [hr] at h; simp [Except.map] at h
  | ok text =>
    rw [hr] at h
    simp only [Except.map, Except.ok.injEq] at h
    subst h
    exact ⟨rfl, rfl⟩

theorem inquiryFor_eq_error {p : Query} {e : RenderError} (h : inquiryFor p = .error e) :
    Block.render { queries := [p] } = .error e := by
  unfold inquiryFor at h
  cases hr : Block.render { queries := [p] } with
  | error e' =>
    rw [hr] at h
    simp only [Except.map, Except.error.injEq] at h
    rw [h]
  | ok text => rw [hr] at h; simp [Except.map] at h

/-- What becomes of one proof that the store has answered: either its identifier is
confirmed, or the check stops there, and how it goes on does not matter. -/
theorem confirms_cases {u : Uid} {text : String} {body : ByteArray}
    (htext : ProofText proofs u text) (hstore : store past ⟨text, .empty⟩ = .ok body) :
    (confirms u body = .ok true ∧ LeadsTo body u) ∨
      (confirms u body = .ok false ∧
        StopsAt store past proofs u ⟨.ok false, past.asking [text]⟩) ∨
      (∃ fault, confirms u body = .error fault ∧
        StopsAt store past proofs u ⟨.error ⟨u, fault⟩, past.asking [text]⟩) := by
  unfold confirms
  cases hjson : Json.ofBytes? body with
  | none => exact Or.inr (Or.inr ⟨_, rfl, .noJson htext hstore hjson⟩)
  | some answer =>
    dsimp only
    cases hpath : followProof answer with
    | error g => exact Or.inr (Or.inr ⟨_, rfl, .gap htext hstore hjson hpath⟩)
    | ok value =>
      dsimp only
      cases hparse : Uid.parse? value with
      | error e => exact Or.inr (Or.inr ⟨_, rfl, .noIdentifier htext hstore hjson hpath hparse⟩)
      | ok v =>
        have hleads : LeadsTo body v := ⟨answer, value, hjson, hpath, hparse⟩
        by_cases hv : v = u
        · subst hv
          exact Or.inl ⟨by simp, hleads⟩
        · exact Or.inr (Or.inl ⟨by simp [hv], .elsewhere htext hstore hleads hv⟩)

/-- **One step of the check**: it goes on behind an identifier that is confirmed, with
one call more in the log, and stops at any other. -/
theorem confirmAll_cons (store : Store) (past : Log) {u : Uid} {p : Query}
    (rest : List (Uid × Query)) (hfind : proofs.find? u = some p) :
    (∃ text body, ProofText proofs u text ∧ store past ⟨text, .empty⟩ = .ok body ∧
        LeadsTo body u ∧
        confirmAll store past ((u, p) :: rest) = confirmAll store (past.asking [text]) rest) ∨
      StopsAt store past proofs u (confirmAll store past ((u, p) :: rest)) := by
  rw [confirmAll]
  cases hi : inquiryFor p with
  | error e => exact Or.inr (.unwritten hfind (inquiryFor_eq_error hi))
  | ok inquiry =>
    obtain ⟨text, values⟩ := inquiry
    obtain ⟨hrender, rfl⟩ : Block.render { queries := [p] } = .ok text ∧ values = .empty :=
      inquiryFor_eq_ok hi
    have htext : ProofText proofs u text := ⟨p, hfind, hrender⟩
    dsimp only
    cases hstore : store past ⟨text, .empty⟩ with
    | error e => exact Or.inr (.unanswered htext hstore)
    | ok body =>
      dsimp only
      rcases confirms_cases htext hstore with ⟨hc, hl⟩ | ⟨hc, hs⟩ | ⟨fault, hc, hs⟩
      · rw [hc]
        exact Or.inl ⟨text, body, htext, hstore, hl, rfl⟩
      · rw [hc]
        exact Or.inr hs
      · rw [hc]
        exact Or.inr hs

/-- **A whole run of the check**: all identifiers are confirmed in turn, or those in
front of one at which it stops. -/
theorem confirmAll_cases (pending : List (Uid × Query)) (past : Log)
    (hfind : ∀ e ∈ pending, proofs.find? e.1 = some e.2) :
    (∃ texts, ConfirmedInTurn store past proofs (pending.map (·.1)) texts ∧
        confirmAll store past pending = ⟨.ok true, past.asking texts⟩) ∨
      ∃ before u after texts, pending.map (·.1) = before ++ u :: after ∧
        ConfirmedInTurn store past proofs before texts ∧
        StopsAt store (past.asking texts) proofs u (confirmAll store past pending) := by
  -- the log grows with each call, so the induction is for any log
  induction pending generalizing past with
  | nil => exact Or.inl ⟨[], confirmedInTurn_nil.2 rfl, by rw [confirmAll, Log.asking_nil]⟩
  | cons e rest ih =>
    obtain ⟨u, p⟩ := e
    rw [List.forall_mem_cons] at hfind
    rcases confirmAll_cons store past rest hfind.1 with
      ⟨text, body, htext, hstore, hleads, heq⟩ | hstop
    · -- confirmed: the rest of the run decides, with this identifier in front
      rw [heq]
      rcases ih (past.asking [text]) hfind.2 with
        ⟨texts, hc, hrun⟩ | ⟨bef, v, aft, texts, hsplit, hc, hs⟩
      · refine Or.inl ⟨text :: texts, ?_, by rw [hrun, Log.asking_cons past text texts]⟩
        exact confirmedInTurn_cons.2 ⟨text, texts, body, rfl, htext, hstore, hleads, hc⟩
      · refine Or.inr ⟨u :: bef, v, aft, text :: texts, ?_, ?_, ?_⟩
        · rw [List.map_cons, hsplit]
          rfl
        · exact confirmedInTurn_cons.2 ⟨text, texts, body, rfl, htext, hstore, hleads, hc⟩
        · rw [Log.asking_cons past text texts]
          exact hs
    · exact Or.inr ⟨[], u, rest.map (·.1), [], rfl, confirmedInTurn_nil.2 rfl, by
        rw [Log.asking_nil]; exact hstop⟩

/-- Where all identifiers are confirmed in turn, the check says yes. -/
theorem confirmAll_eq_of_confirmedInTurn {pending : List (Uid × Query)} {texts : List String}
    (hfind : ∀ e ∈ pending, proofs.find? e.1 = some e.2)
    (h : ConfirmedInTurn store past proofs (pending.map (·.1)) texts) :
    confirmAll store past pending = ⟨.ok true, past.asking texts⟩ := by
  induction pending generalizing past texts with
  | nil =>
    obtain rfl := confirmedInTurn_nil.1 h
    rw [confirmAll, Log.asking_nil]
  | cons e rest ih =>
    obtain ⟨u, p⟩ := e
    rw [List.forall_mem_cons] at hfind
    obtain ⟨text, texts', body, rfl, ⟨p', hp', hrender⟩, hstore, hleads, hc⟩ :=
      confirmedInTurn_cons.1 h
    -- the proof that was confirmed is the one that is run
    obtain rfl : p = p' := Option.some.inj (hfind.1.symm.trans hp')
    have hinquiry : inquiryFor p = .ok ⟨text, .empty⟩ := by
      unfold inquiryFor
      rw [hrender]
      rfl
    rw [confirmAll, hinquiry]
    dsimp only
    rw [hstore]
    dsimp only
    rw [confirms_eq_ok_true_iff.2 hleads, Log.add_execute, Log.asking_cons past text texts']
    exact ih hfind.2 hc

end Confirmation

/-! ## The whole check -/

variable (store : Store) (log : Log) (queries : List Query) (identity : Uid)
  (proofs : Table Uid Query)

theorem allows_of_not_admissible {queries identity proofs}
    (h : ¬ Admissible identity proofs queries) :
    allows store log queries identity proofs = ⟨.ok false, log⟩ := by
  unfold allows
  cases hp : pendingProofs? identity proofs queries with
  | none => rfl
  | some pending => exact absurd (pendingProofs?_eq_some hp).1 h

/-- The check of admissible queries runs the proofs of their foreign identifiers. -/
theorem exists_allows_eq_confirmAll {queries identity proofs}
    (h : Admissible identity proofs queries) :
    ∃ pending, pending.map (·.1) = foreignIds identity queries ∧
      (∀ e ∈ pending, proofs.find? e.1 = some e.2) ∧
      allows store log queries identity proofs = confirmAll store log pending := by
  unfold allows
  cases hp : pendingProofs? identity proofs queries with
  | none => exact absurd h (pendingProofs?_eq_none hp)
  | some pending =>
    obtain ⟨-, hmap, hall⟩ := pendingProofs?_eq_some hp
    exact ⟨pending, hmap, fun e he => (hall e he).1, rfl⟩

theorem allows_cases {queries identity proofs} (h : Admissible identity proofs queries) :
    (∃ texts, ConfirmedInTurn store log proofs (foreignIds identity queries) texts ∧
        allows store log queries identity proofs = ⟨.ok true, log.asking texts⟩) ∨
      ∃ before u after texts, foreignIds identity queries = before ++ u :: after ∧
        ConfirmedInTurn store log proofs before texts ∧
        StopsAt store (log.asking texts) proofs u (allows store log queries identity proofs) := by
  obtain ⟨pending, hmap, hfind, heq⟩ := exists_allows_eq_confirmAll store log h
  rw [heq, ← hmap]
  exact confirmAll_cases pending log hfind

theorem allows_eq_of_confirmedInTurn {queries identity proofs} {texts : List String}
    (h : Admissible identity proofs queries)
    (hc : ConfirmedInTurn store log proofs (foreignIds identity queries) texts) :
    allows store log queries identity proofs = ⟨.ok true, log.asking texts⟩ := by
  obtain ⟨pending, hmap, hfind, heq⟩ := exists_allows_eq_confirmAll store log h
  rw [heq]
  exact confirmAll_eq_of_confirmedInTurn hfind (hmap ▸ hc)

/-- A requester is allowed exactly the admissible queries whose foreign identifiers are
all confirmed in turn. -/
theorem allows_outcome_eq_true_iff {queries identity proofs} :
    (allows store log queries identity proofs).outcome = .ok true ↔
      Admissible identity proofs queries ∧
        ∃ texts, ConfirmedInTurn store log proofs (foreignIds identity queries) texts := by
  constructor
  · intro h
    by_cases hadm : Admissible identity proofs queries
    · rcases allows_cases store log hadm with ⟨texts, hc, -⟩ | ⟨_, _, _, _, -, -, hs⟩
      · exact ⟨hadm, texts, hc⟩
      · exact absurd h hs.outcome_ne_true
    · rw [allows_of_not_admissible store log hadm] at h
      simp at h
  · rintro ⟨hadm, texts, hc⟩
    rw [allows_eq_of_confirmedInTurn store log hadm hc]

/-- **A requester is allowed exactly what its proofs confirm.** Queries that are not
admissible are refused without a call. Of admissible ones the foreign identifiers are
gone through in order, one call each, up to the first that is not confirmed. -/
theorem allows_exactly_if_confirmed :
    ((allows store log queries identity proofs).outcome = .ok true ↔
      Admissible identity proofs queries ∧
        ∃ texts, ConfirmedInTurn store log proofs (foreignIds identity queries) texts) ∧
    (¬ Admissible identity proofs queries →
      allows store log queries identity proofs = ⟨.ok false, log⟩) ∧
    (Admissible identity proofs queries →
      (∃ texts, ConfirmedInTurn store log proofs (foreignIds identity queries) texts ∧
        allows store log queries identity proofs = ⟨.ok true, log.asking texts⟩) ∨
      ∃ before u after texts, foreignIds identity queries = before ++ u :: after ∧
        ConfirmedInTurn store log proofs before texts ∧
        StopsAt store (log.asking texts) proofs u
          (allows store log queries identity proofs)) :=
  ⟨allows_outcome_eq_true_iff store log, allows_of_not_admissible store log, allows_cases store log⟩

end Authorization

end Dql
