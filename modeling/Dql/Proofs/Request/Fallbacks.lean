import Dql.Proofs.Request.Template

/-!
# Fallbacks decide nothing

Every query of a block and of a proof may carry a fallback. None of them has a say in
what is asked while a request is answered, nor in whether it is answered: a run is a
`reply`, which is the same for all requests that differ in fallbacks only
(`reply_congr`), and fills the answer with the block's fallbacks at its very end
(`run_eq_reply`). `run_congr` says what this comes to for two requests.

The reply asks for three things of a query tree, its text, its shape as a lookup and its
tree as a template, and each is kept by `Query.stripFallbacks`. Texts and templates were
treated where templates are; what is left is the authorization, whose step lemma is
`confirmAll_strip`.
-/

namespace Dql

namespace Authorization

/-- Proofs without fallbacks. -/
def stripProofs (proofs : Table Uid Query) : Table Uid Query :=
  proofs.map fun _ p => p.stripFallbacks

/-- Proofs that wait to be run, without fallbacks. -/
def stripPending (pending : List (Uid × Query)) : List (Uid × Query) :=
  pending.map fun e => (e.1, e.2.stripFallbacks)

/-! ## What is looked at in a proof -/

theorem clause_stripFallbacks (q : Query) : q.stripFallbacks.clause = q.clause := by
  obtain ⟨clause, fallback, children⟩ := q
  rw [Query.stripFallbacks]

theorem isPlainLookup_stripFallbacks (q : Query) :
    isPlainLookup q.stripFallbacks = isPlainLookup q := by
  unfold isPlainLookup
  rw [clause_stripFallbacks]

theorem isRootedAt_stripFallbacks (identity : Uid) (q : Query) :
    isRootedAt identity q.stripFallbacks = isRootedAt identity q := by
  unfold isRootedAt
  rw [isPlainLookup_stripFallbacks, clause_stripFallbacks]

/-- The store is asked the same for a proof with its fallbacks and without. -/
theorem inquiryFor_stripFallbacks (p : Query) :
    inquiryFor p.stripFallbacks = inquiryFor p := by
  have hrender := Block.render_stripFallbacks { queries := [p] }
  unfold inquiryFor
  rw [← hrender]
  rfl

theorem proofsFor?_stripProofs (identity : Uid) (proofs : Table Uid Query) (ids : List Uid) :
    proofsFor? identity (stripProofs proofs) ids
      = (proofsFor? identity proofs ids).map stripPending := by
  induction ids with
  | nil => rfl
  | cons u rest ih =>
    rw [proofsFor?, proofsFor?]
    by_cases hu : u = identity
    · rw [if_pos hu, if_pos hu, ih]
    · rw [if_neg hu, if_neg hu, stripProofs, Table.find?_map]
      cases proofs.find? u with
      | none => rfl
      | some p =>
        dsimp only [Option.map_some]
        rw [isRootedAt_stripFallbacks]
        by_cases hroot : isRootedAt identity p = true
        · rw [if_pos hroot, if_pos hroot, ← stripProofs, ih, Option.map_map, Option.map_map]
          rfl
        · rw [if_neg hroot, if_neg hroot]
          rfl

/-- The proofs to run are found, or missing, whatever the fallbacks. -/
theorem pendingProofs?_strip (identity : Uid) (proofs : Table Uid Query) (queries : List Query) :
    pendingProofs? identity (stripProofs proofs) (Query.stripAll queries)
      = (pendingProofs? identity proofs queries).map stripPending := by
  induction queries with
  | nil => rfl
  | cons q rest ih =>
    rw [Query.stripAll, pendingProofs?, pendingProofs?, isPlainLookup_stripFallbacks]
    by_cases hq : isPlainLookup q = true
    · rw [if_pos hq, if_pos hq, clause_stripFallbacks, proofsFor?_stripProofs, ih]
      cases proofsFor? identity proofs q.clause.ids with
      | none => rfl
      | some pending =>
        dsimp only [Option.map_some]
        rw [Option.map_map, Option.map_map]
        refine congrArg (Option.map · _) (funext fun more => ?_)
        exact (List.map_append : stripPending (pending ++ more) = _).symm
    · rw [if_neg hq, if_neg hq]
      rfl

/-! ## The check -/

section Check

variable (store : Store)

/-- **The run of the proofs**: each is asked for by its text, so that the store hears
the same, and what it answers is judged by the identifier alone. -/
theorem confirmAll_strip (past : Log) (pending : List (Uid × Query)) :
    confirmAll store past (stripPending pending) = confirmAll store past pending := by
  -- the log grows with each call, so the induction is for any log
  induction pending generalizing past with
  | nil => rfl
  | cons e rest ih =>
    obtain ⟨u, p⟩ := e
    rw [stripPending, List.map_cons, ← stripPending, confirmAll, confirmAll,
      inquiryFor_stripFallbacks]
    simp only [ih]

variable (past : Log) (queries : List Query) (identity : Uid) (proofs : Table Uid Query)

theorem allows_strip :
    allows store past (Query.stripAll queries) identity (stripProofs proofs)
      = allows store past queries identity proofs := by
  unfold allows
  rw [pendingProofs?_strip]
  cases pendingProofs? identity proofs queries with
  | none => rfl
  | some pending => exact confirmAll_strip store past pending

end Check

end Authorization

open Authorization

namespace Request

/-! ## Replies -/

/-- A request without fallbacks, in its block and in its proofs. -/
def stripFallbacks (r : Request) : Request :=
  { r with block := r.block.stripFallbacks, proofs := stripProofs r.proofs }

/-- What the store answers to an inquiry, as JSON. -/
def fetch (store : Store) (past : Log) (i : Inquiry) : Run RequestError Json where
  outcome :=
    match store past i with
    | .error e => .error (.store e)
    | .ok body => (Json.ofBytes? body).elim (.error .response) .ok
  log := past.add (.execute i)

/-- A request's run up to the store's answer, which is returned as it is. -/
def reply (parser : Parser) (store : Store) (past : Log) (r : Request) : Run RequestError Json :=
  let templated := r.block.template parser past
  match templated.outcome with
  | .error e => ⟨.error e, templated.log⟩
  | .ok text =>
    let allowed := allows store templated.log r.block.queries r.identity r.proofs
    match allowed.outcome with
    | .error e => ⟨.error (.proof e), allowed.log⟩
    | .ok false => ⟨.error (.unauthorized r.identity), allowed.log⟩
    | .ok true => fetch store allowed.log ⟨text, r.values⟩

variable (parser : Parser) (store : Store) (past : Log) (r : Request)

theorem execute_eq_fetch (text : String) :
    r.execute store past text
      = ⟨(fetch store past ⟨text, r.values⟩).outcome.map
          (Response.applyFallbacks r.block.queries),
        (fetch store past ⟨text, r.values⟩).log⟩ := by
  unfold execute fetch
  dsimp only
  cases store past ⟨text, r.values⟩ with
  | error e => rfl
  | ok body =>
    dsimp only
    cases Json.ofBytes? body <;> rfl

/-- **A run is a reply with the fallbacks filled in**, at the end and nowhere before. -/
theorem run_eq_reply :
    r.run parser store past
      = ⟨(r.reply parser store past).outcome.map (Response.applyFallbacks r.block.queries),
        (r.reply parser store past).log⟩ := by
  unfold run reply
  dsimp only
  cases (r.block.template parser past).outcome with
  | error e => rfl
  | ok text =>
    dsimp only
    cases (allows store (r.block.template parser past).log r.block.queries r.identity
        r.proofs).outcome with
    | error e => rfl
    | ok yes =>
      cases yes with
      | false => rfl
      | true => exact execute_eq_fetch store _ r text

theorem reply_stripFallbacks :
    r.stripFallbacks.reply parser store past = r.reply parser store past := by
  unfold reply stripFallbacks
  dsimp only
  rw [Block.template_stripFallbacks]
  unfold Block.stripFallbacks
  simp only [allows_strip]

variable {r}

/-- Requests that differ in their fallbacks only get the same reply. -/
theorem reply_congr {r' : Request} (h : r'.stripFallbacks = r.stripFallbacks) :
    r'.reply parser store past = r.reply parser store past := by
  rw [← reply_stripFallbacks, h, reply_stripFallbacks]

theorem fetch_outcome_eq_ok {i : Inquiry} {answer : Json}
    (h : (fetch store past i).outcome = .ok answer) :
    ∃ body, store past i = .ok body ∧ Json.ofBytes? body = some answer := by
  unfold fetch at h
  dsimp only at h
  cases hstore : store past i with
  | error e => rw [hstore] at h; simp at h
  | ok body =>
    rw [hstore] at h
    dsimp only at h
    cases hjson : Json.ofBytes? body with
    | none => rw [hjson] at h; simp at h
    | some x =>
      rw [hjson] at h
      obtain rfl := Except.ok.inj h
      exact ⟨body, rfl, hjson⟩

/-- A reply is what the store answered to the question that was asked last, the block's
own text with the request's values. -/
theorem reply_outcome_eq_ok {answer : Json} (h : (r.reply parser store past).outcome = .ok answer) :
    ∃ before text body, (r.reply parser store past).log = before.add (.execute ⟨text, r.values⟩) ∧
      store before ⟨text, r.values⟩ = .ok body ∧ Json.ofBytes? body = some answer := by
  unfold reply at h ⊢
  dsimp only at h ⊢
  split at h
  · simp at h
  · next text _ =>
    split at h
    · simp at h
    · simp at h
    · obtain ⟨body, hbody, hjson⟩ := fetch_outcome_eq_ok store _ h
      exact ⟨_, text, body, rfl, hbody, hjson⟩

/-- **Fallbacks decide nothing.** Two requests that differ in their fallbacks only, anywhere
in the block and in the proofs, ask the parser and the store the same in the same order,
and fail for the same reason or are given the same answer by the store; what each of them
returns is this answer with its own fallbacks filled in. -/
theorem run_congr {r' : Request} (h : r'.stripFallbacks = r.stripFallbacks) :
    (r'.run parser store past).log = (r.run parser store past).log ∧
    ((∃ e, (r.run parser store past).outcome = .error e ∧
        (r'.run parser store past).outcome = .error e) ∨
      ∃ before text body answer,
        (r.run parser store past).log = before.add (.execute ⟨text, r.values⟩) ∧
        store before ⟨text, r.values⟩ = .ok body ∧ Json.ofBytes? body = some answer ∧
        (r.run parser store past).outcome
          = .ok (Response.applyFallbacks r.block.queries answer) ∧
        (r'.run parser store past).outcome
          = .ok (Response.applyFallbacks r'.block.queries answer)) := by
  rw [run_eq_reply, run_eq_reply, reply_congr parser store past h]
  dsimp only
  refine ⟨rfl, ?_⟩
  cases hreply : (r.reply parser store past).outcome with
  | error e => exact Or.inl ⟨e, rfl, rfl⟩
  | ok answer =>
    obtain ⟨before, text, body, hlog, hbody, hjson⟩ :=
      reply_outcome_eq_ok parser store past hreply
    exact Or.inr ⟨before, text, body, answer, hlog, hbody, hjson, rfl, rfl⟩

/-- A proof of the requester 1 that ends one step further, with a fallback there. -/
def namedProof (fallback : Option Json) : Query :=
  { clause := { aliasName := "proof", call := some lookupCall, ids := [1] },
    children := [{ clause := { aliasName := "proof", attr := "uid" }, fallback := fallback }] }

/-- A request for the name of the node 2, with a fallback that stands in for the name. -/
def named (fallback inProof : Option Json) : Request :=
  { block := { queries := [
      { clause := { aliasName := "q", call := some lookupCall, ids := [2] },
        children := [{ clause := { attr := "name" }, fallback := fallback }] }] },
    identity := 1,
    proofs := .ofList [(2, namedProof inProof)] }

/-- A parser that reads the request's block. -/
def namedParser : Parser := fun _ _ => .ok (Query.allToParsed (named none none).block.queries)

/-- A store that knows where the proof leads, and of the node no name. -/
def namelessStore : Store := fun past _ =>
  match past.executed with
  | [] => .ok "\x7b\"proof\":[\x7b\"proof\":\"0x02\"\x7d]\x7d".toUTF8
  | _ => .ok "\x7b\"q\":[\x7b\x7d]\x7d".toUTF8

/-- The request is answered, with an object that has no name in it. -/
theorem named_reply :
    ((named none none).reply namedParser namelessStore ⟨[]⟩).outcome
      = .ok (.object [("q", .array [.object []])]) := by
  have hproof : Json.ofBytes? "\x7b\"proof\":[\x7b\"proof\":\"0x02\"\x7d]\x7d".toUTF8
      = some (.object [("proof", .array [.object [("proof", .string "0x02")]])]) :=
    (Json.ofBytes?_ofList _).trans rfl
  have hanswer : Json.ofBytes? "\x7b\"q\":[\x7b\x7d]\x7d".toUTF8
      = some (.object [("q", .array [.object []])]) :=
    (Json.ofBytes?_ofList _).trans rfl
  obtain ⟨text, htext⟩ : ∃ text, (named none none).block.ReadsBack namedParser ⟨[]⟩ text :=
    ⟨_, rfl, _, rfl, rfl⟩
  obtain ⟨proof, hrender⟩ : ∃ t, Block.render { queries := [namedProof none] } = .ok t := ⟨_, rfl⟩
  have hfind : (named none none).proofs.find? 2 = some (namedProof none) := rfl
  have hconfirmed : ConfirmedInTurn namelessStore
      ((named none none).block.afterReading ⟨[]⟩ text) (named none none).proofs [2] [proof] :=
    confirmedInTurn_cons.2 ⟨proof, [], _, rfl, ⟨namedProof none, hfind, hrender⟩, rfl,
      ⟨_, "0x02", hproof, rfl, rfl⟩, confirmedInTurn_nil.2 rfl⟩
  have hadm : Admissible 1 (named none none).proofs (named none none).block.queries :=
    admissible_cons.2 ⟨⟨rfl, rfl⟩, fun u hu => ⟨namedProof none, by
      obtain rfl : u = 2 := by simpa using hu
      exact ⟨hfind, ⟨rfl, rfl⟩, rfl⟩⟩, ⟨by simp, by simp [foreignIds]⟩⟩
  unfold reply
  rw [Block.template_of_readsBack htext]
  dsimp only
  rw [show (named none none).identity = 1 from rfl,
    allows_eq_of_confirmedInTurn namelessStore _ hadm hconfirmed]
  -- the proof has been asked, so that the store now answers for the block
  unfold fetch
  have hstore : namelessStore (((named none none).block.afterReading ⟨[]⟩ text).asking [proof])
      ⟨text, (named none none).values⟩ = .ok "\x7b\"q\":[\x7b\x7d]\x7d".toUTF8 := rfl
  rw [hstore]
  dsimp only
  rw [hanswer]
  rfl

/-- A request with a fallback for the name and one with a fallback in the proof differ in
what they return, and in nothing else. -/
theorem run_congr_named :
    (named none (some (.bool true))).stripFallbacks
      = (named (some (.string "nameless")) none).stripFallbacks ∧
    ((named none (some (.bool true))).run namedParser namelessStore ⟨[]⟩).log
      = ((named (some (.string "nameless")) none).run namedParser namelessStore ⟨[]⟩).log ∧
    ((named none (some (.bool true))).run namedParser namelessStore ⟨[]⟩).outcome
      = .ok (.object [("q", .array [.object []])]) ∧
    ((named (some (.string "nameless")) none).run namedParser namelessStore ⟨[]⟩).outcome
      = .ok (.object [("q", .array [.object [("name", .string "nameless")]])]) := by
  have hstrip : (named none (some (.bool true))).stripFallbacks
      = (named (some (.string "nameless")) none).stripFallbacks := rfl
  have hreply : ∀ a b : Option Json,
      ((named a b).reply namedParser namelessStore ⟨[]⟩).outcome
        = .ok (.object [("q", .array [.object []])]) := by
    intro a b
    have hnone : (named a b).stripFallbacks = (named none none).stripFallbacks := rfl
    rw [reply_congr namedParser namelessStore ⟨[]⟩ hnone, named_reply]
  refine ⟨hstrip, (run_congr namedParser namelessStore ⟨[]⟩ hstrip).1, ?_, ?_⟩
  · rw [run_eq_reply, hreply]
    rfl
  · rw [run_eq_reply, hreply]
    rfl

end Request

end Dql
