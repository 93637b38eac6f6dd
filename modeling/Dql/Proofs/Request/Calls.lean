import Dql.Proofs.Authorization.Confirmation
import Dql.Request

/-!
# What reaches the store while a request is answered

`Request.run` goes through four steps, each of which may fail, with a parser and a
store that may answer anything. What the store is asked in all of this is settled
by two facts that are known before it is asked:

* whether the block reads back as itself (`Block.ReadsBack`): if not, nothing is asked;
* whether its roots are lookups whose foreign identifiers are confirmed in turn: only
  then the block's own text follows the proofs.

What is asked in between is always a beginning of the list of proofs, in the order of
the identifiers they are for (`WrittenProofs`). The statement about a whole run is
`run_store_calls`. A root that is no lookup is refused even if it names no identifier
at all, so that nothing was left to confirm (`scan_root_refused`).
-/

namespace Dql

open Authorization

namespace Block

/-- A block has a text, and the parser reports for it the block itself, fallbacks aside. -/
def ReadsBack (parser : Parser) (past : Log) (b : Block) (text : String) : Prop :=
  b.render = .ok text ∧
    ∃ ps, parser past (b.inquiry text) = .ok ps ∧
      Query.allSame (ParsedQuery.toQueries ps) (Query.stripAll b.queries) = true

/-- The log after the parser was asked for a block. -/
def afterReading (past : Log) (b : Block) (text : String) : Log :=
  past.add (.parse (b.inquiry text))

section Template

variable {parser : Parser} {past : Log} {b : Block}

theorem template_of_readsBack {text : String} (h : ReadsBack parser past b text) :
    b.template parser past = ⟨.ok text, b.afterReading past text⟩ := by
  obtain ⟨hrender, ps, hparse, hsame⟩ := h
  unfold template
  rw [hrender]
  dsimp only
  unfold parseText
  rw [hparse]
  show Run.mk (b.checkReadBack text (ParsedQuery.toQueries ps)) _ = _
  unfold checkReadBack
  rw [if_pos hsame]
  rfl

theorem exists_checkReadBack_eq_error {text : String} {parsed : List Query}
    (h : ¬ Query.allSame parsed (Query.stripAll b.queries) = true) :
    ∃ d, b.checkReadBack text parsed = .error (.consistency text d) :=
  ⟨_, if_neg h⟩

/-- A template that fails does so before the store is asked, and for a reason of its own. -/
theorem template_of_not_readsBack (h : ∀ text, ¬ ReadsBack parser past b text) :
    ∃ e l, b.template parser past = ⟨.error e, l⟩ ∧ l.executed = past.executed ∧
      ((∃ r, e = .render r) ∨ (∃ p, e = .parse p) ∨ ∃ t d, e = .consistency t d) := by
  unfold template
  cases hrender : b.render with
  | error e => exact ⟨_, _, rfl, rfl, Or.inl ⟨e, rfl⟩⟩
  | ok text =>
    dsimp only
    unfold parseText
    cases hparse : parser past (b.inquiry text) with
    | error e =>
      exact ⟨_, _, rfl, Log.executed_add_parse past _, Or.inr (Or.inl ⟨e, rfl⟩)⟩
    | ok ps =>
      have hsame : ¬ Query.allSame (ParsedQuery.toQueries ps) (Query.stripAll b.queries) = true :=
        fun hsame => h text ⟨hrender, ps, hparse, hsame⟩
      obtain ⟨d, hread⟩ := exists_checkReadBack_eq_error hsame
      exact ⟨.consistency text d, b.afterReading past text, congrArg (Run.mk · _) hread,
        Log.executed_add_parse past _, Or.inr (Or.inr ⟨text, d, rfl⟩)⟩

end Template

end Block

namespace Authorization

/-- Texts are those of the proofs for the first of the identifiers, in their order. -/
def WrittenProofs (proofs : Table Uid Query) (us : List Uid) (texts : List String) : Prop :=
  texts.length ≤ us.length ∧
    ∀ (i : Nat) (u : Uid) (text : String), us[i]? = some u → texts[i]? = some text →
      ProofText proofs u text

theorem ConfirmedInTurn.writtenProofs {store : Store} {past : Log} {proofs : Table Uid Query}
    {us : List Uid} {texts : List String} (h : ConfirmedInTurn store past proofs us texts) :
    WrittenProofs proofs us texts :=
  ⟨Nat.le_of_eq h.1, fun i u text hu ht => (h.2 i u text hu ht).1⟩

/-- A beginning of the proofs, and the one that comes next, are a beginning of the proofs. -/
theorem WrittenProofs.append {proofs : Table Uid Query} {bef aft : List Uid} {u : Uid}
    {texts more : List String} (h : WrittenProofs proofs bef texts)
    (hlen : texts.length = bef.length) (hmore : WrittenProofs proofs [u] more) :
    WrittenProofs proofs (bef ++ u :: aft) (texts ++ more) := by
  have hle : more.length ≤ 1 := hmore.1
  refine ⟨by simp only [List.length_append, List.length_cons]; omega, fun i v text hv ht => ?_⟩
  -- a place is one of the beginning, or the one behind it
  rcases Nat.lt_or_ge i bef.length with hi | hi
  · rw [List.getElem?_append_left hi] at hv
    rw [List.getElem?_append_left (by omega)] at ht
    exact h.2 i v text hv ht
  · rw [List.getElem?_append_right hi] at hv
    rw [List.getElem?_append_right (by omega), hlen] at ht
    have hi0 : i - bef.length = 0 := by
      have := (List.getElem?_eq_some_iff.1 ht).1
      omega
    rw [hi0] at hv ht
    exact hmore.2 0 v text (by simpa using hv) ht

/-- Where a check stops, it has asked for the proof at hand at most. -/
theorem StopsAt.log_eq {store : Store} {past : Log} {proofs : Table Uid Query} {u : Uid}
    {run : Run ProofError Bool} (h : StopsAt store past proofs u run) :
    ∃ more, WrittenProofs proofs [u] more ∧ run.log = past.asking more := by
  have hone : ∀ {text : String}, ProofText proofs u text → WrittenProofs proofs [u] [text] := by
    intro text ht
    refine ⟨Nat.le_refl 1, fun i v t hv hti => ?_⟩
    have hi : i = 0 := by
      have := (List.getElem?_eq_some_iff.1 hv).1
      simpa using this
    subst hi
    obtain rfl : u = v := by simpa using hv
    obtain rfl : text = t := by simpa using hti
    exact ht
  cases h with
  | unwritten hfind hrender =>
    exact ⟨[], ⟨Nat.zero_le _, fun i v t _ ht => absurd ht (by simp)⟩, (Log.asking_nil past).symm⟩
  | unanswered htext _ => exact ⟨_, hone htext, rfl⟩
  | noJson htext _ _ => exact ⟨_, hone htext, rfl⟩
  | gap htext _ _ _ => exact ⟨_, hone htext, rfl⟩
  | noIdentifier htext _ _ _ _ => exact ⟨_, hone htext, rfl⟩
  | elsewhere htext _ _ _ => exact ⟨_, hone htext, rfl⟩

/-- Whatever the check says, it has asked for a beginning of the proofs. -/
theorem exists_allows_log_eq (store : Store) (log : Log) (queries : List Query) (identity : Uid)
    (proofs : Table Uid Query) :
    ∃ texts, WrittenProofs proofs (foreignIds identity queries) texts ∧
      (allows store log queries identity proofs).log = log.asking texts := by
  by_cases h : Admissible identity proofs queries
  · rcases allows_cases store log h with
      ⟨texts, hc, heq⟩ | ⟨bef, u, aft, texts, hsplit, hc, hs⟩
    · exact ⟨texts, hc.writtenProofs, by rw [heq]⟩
    · -- behind the confirmed ones, the one at which the check stops may have been asked
      obtain ⟨more, hmore, hlog⟩ := hs.log_eq
      refine ⟨texts ++ more, ?_, ?_⟩
      · rw [hsplit]
        exact hc.writtenProofs.append hc.1 hmore
      · rw [hlog, Log.asking_asking]
  · rw [allows_of_not_admissible store log h]
    exact ⟨[], ⟨Nat.zero_le _, fun i v t _ ht => absurd ht (by simp)⟩,
      (Log.asking_nil log).symm⟩

end Authorization

namespace Request

/-! ## The last step -/

theorem execute_log (store : Store) (log : Log) (r : Request) (text : String) :
    (r.execute store log text).log = log.add (.execute ⟨text, r.values⟩) := by
  unfold execute
  dsimp only
  split
  · rfl
  · split <;> rfl

/-- The last step fails for a reason of the store's, or fills what the store answers. -/
theorem execute_outcome (store : Store) (log : Log) (r : Request) (text : String) :
    (∃ e, (r.execute store log text).outcome = .error (.store e)) ∨
      (r.execute store log text).outcome = .error .response ∨
      ∃ body answer, store log ⟨text, r.values⟩ = .ok body ∧ Json.ofBytes? body = some answer ∧
        (r.execute store log text).outcome
          = .ok (Response.applyFallbacks r.block.queries answer) := by
  unfold execute
  dsimp only
  cases hstore : store log ⟨text, r.values⟩ with
  | error e => exact Or.inl ⟨e, rfl⟩
  | ok body =>
    dsimp only
    cases hjson : Json.ofBytes? body with
    | none => exact Or.inr (Or.inl rfl)
    | some answer => exact Or.inr (Or.inr ⟨body, answer, rfl, hjson, rfl⟩)

/-! ## The whole run -/

section Run

variable {parser : Parser} {store : Store} {past : Log} {r : Request}

theorem run_of_not_readsBack (store : Store) (h : ∀ text, ¬ r.block.ReadsBack parser past text) :
    (r.run parser store past).log.executed = past.executed ∧
      ∃ e, (r.run parser store past).outcome = .error e ∧
        ((∃ x, e = .render x) ∨ (∃ x, e = .parse x) ∨ ∃ t d, e = .consistency t d) := by
  obtain ⟨e, l, htemplate, hlog, hkind⟩ := Block.template_of_not_readsBack h
  unfold run
  rw [htemplate]
  exact ⟨hlog, e, rfl, hkind⟩

/-- The check that a request passes or not, once its block has been read back. -/
def check (store : Store) (past : Log) (r : Request) (text : String) : Run ProofError Bool :=
  allows store (r.block.afterReading past text) r.block.queries r.identity r.proofs

theorem run_of_check_error {text : String} {e : ProofError}
    (h : r.block.ReadsBack parser past text)
    (hcheck : (r.check store past text).outcome = .error e) :
    r.run parser store past = ⟨.error (.proof e), (r.check store past text).log⟩ := by
  unfold run
  rw [Block.template_of_readsBack h]
  unfold check at hcheck ⊢
  dsimp only
  rw [hcheck]

theorem run_of_check_false {text : String} (h : r.block.ReadsBack parser past text)
    (hcheck : (r.check store past text).outcome = .ok false) :
    r.run parser store past
      = ⟨.error (.unauthorized r.identity), (r.check store past text).log⟩ := by
  unfold run
  rw [Block.template_of_readsBack h]
  unfold check at hcheck ⊢
  dsimp only
  rw [hcheck]

theorem run_of_check_true {text : String} (h : r.block.ReadsBack parser past text)
    (hcheck : (r.check store past text).outcome = .ok true) :
    r.run parser store past = r.execute store (r.check store past text).log text := by
  unfold run
  rw [Block.template_of_readsBack h]
  unfold check at hcheck ⊢
  dsimp only
  rw [hcheck]

theorem executed_afterReading (b : Block) (past : Log) (text : String) :
    (b.afterReading past text).executed = past.executed :=
  Log.executed_add_parse past _

/-- What the store has been asked when the check is over, and whether the block's own
text comes behind it. -/
theorem run_executed_of_readsBack (store : Store) {text : String}
    (h : r.block.ReadsBack parser past text) :
    ∃ texts, WrittenProofs r.proofs (foreignIds r.identity r.block.queries) texts ∧
      (r.check store past text).log = (r.block.afterReading past text).asking texts ∧
      ((r.check store past text).outcome = .ok true →
        (r.run parser store past).log.executed
          = past.executed ++ texts.map (fun t => ⟨t, .empty⟩) ++ [⟨text, r.values⟩]) ∧
      ((r.check store past text).outcome ≠ .ok true →
        (r.run parser store past).log.executed
          = past.executed ++ texts.map (fun t => ⟨t, .empty⟩)) := by
  obtain ⟨texts, hw, hlog⟩ :=
    exists_allows_log_eq store (r.block.afterReading past text) r.block.queries r.identity r.proofs
  have hlog' : (r.check store past text).log = (r.block.afterReading past text).asking texts := hlog
  refine ⟨texts, hw, hlog', fun hcheck => ?_, fun hne => ?_⟩
  · rw [run_of_check_true h hcheck, hlog', execute_log, Log.executed_add_execute,
      Log.executed_asking, executed_afterReading]
  · cases hcheck : (r.check store past text).outcome with
    | error e =>
      rw [run_of_check_error h hcheck, hlog', Log.executed_asking, executed_afterReading]
    | ok b =>
      cases b with
      | false =>
        rw [run_of_check_false h hcheck, hlog', Log.executed_asking, executed_afterReading]
      | true => exact absurd hcheck hne

/-- The check says yes to the texts it has asked exactly if all roots are lookups and
these texts confirm all foreign identifiers in turn. -/
theorem check_outcome_eq_true_iff {text : String} {texts : List String}
    (hlog : (r.check store past text).log = (r.block.afterReading past text).asking texts) :
    (r.check store past text).outcome = .ok true ↔
      (∀ q ∈ r.block.queries, IsLookup q) ∧
        ConfirmedInTurn store (r.block.afterReading past text) r.proofs
          (foreignIds r.identity r.block.queries) texts := by
  unfold check at hlog ⊢
  constructor
  · intro htrue
    obtain ⟨hadm, texts', hc⟩ := (allows_outcome_eq_true_iff store _).1 htrue
    rw [allows_eq_of_confirmedInTurn store _ hadm hc] at hlog
    -- both lists of texts are what the log has more than before
    have hquestions := congrArg Log.executed hlog
    rw [Log.executed_asking, Log.executed_asking] at hquestions
    have hmap := List.append_cancel_left hquestions
    have htexts : texts' = texts :=
      (List.map_inj_right fun a b hab => congrArg Inquiry.text hab).1 hmap
    exact ⟨hadm.lookups, htexts ▸ hc⟩
  · rintro ⟨hlookups, hc⟩
    by_cases hadm : Admissible r.identity r.proofs r.block.queries
    · rw [allows_eq_of_confirmedInTurn store _ hadm hc]
    · -- nothing was asked, so there is no foreign identifier, and nothing to be missing
      rw [allows_of_not_admissible store _ hadm] at hlog
      have hquestions := congrArg Log.executed hlog
      rw [Log.executed_asking] at hquestions
      have hnil : texts = [] := by simpa using hquestions
      have hids : foreignIds r.identity r.block.queries = [] := by
        rw [← List.length_eq_zero_iff, ← hc.1, hnil]
        rfl
      exact absurd ⟨hlookups, by rw [hids]; simp⟩ hadm

end Run

variable (parser : Parser) (store : Store) (past : Log) (r : Request)

theorem run_outcome_unauthorized_iff (i : Uid) :
    (r.run parser store past).outcome = .error (.unauthorized i) ↔
      i = r.identity ∧
        ∃ text, r.block.ReadsBack parser past text ∧
          (r.check store past text).outcome = .ok false := by
  constructor
  · intro hrun
    by_cases h : ∃ text, r.block.ReadsBack parser past text
    · obtain ⟨text, htext⟩ := h
      cases hcheck : (r.check store past text).outcome with
      | error e => rw [run_of_check_error htext hcheck] at hrun; simp at hrun
      | ok b =>
        cases b with
        | false =>
          rw [run_of_check_false htext hcheck] at hrun
          simp only [Except.error.injEq, RequestError.unauthorized.injEq] at hrun
          exact ⟨hrun.symm, text, htext, hcheck⟩
        | true =>
          rw [run_of_check_true htext hcheck] at hrun
          rcases execute_outcome store (r.check store past text).log r text with
            ⟨e, he⟩ | he | ⟨_, _, _, _, he⟩ <;> simp [he] at hrun
    · obtain ⟨-, e, he, hkind⟩ := run_of_not_readsBack store (not_exists.1 h)
      rw [he] at hrun
      rcases hkind with ⟨x, rfl⟩ | ⟨x, rfl⟩ | ⟨t, d, rfl⟩ <;> simp at hrun
  · rintro ⟨rfl, text, htext, hcheck⟩
    rw [run_of_check_false htext hcheck]

theorem run_outcome_proof_iff (e : ProofError) :
    (r.run parser store past).outcome = .error (.proof e) ↔
      ∃ text, r.block.ReadsBack parser past text ∧
        (r.check store past text).outcome = .error e := by
  constructor
  · intro hrun
    by_cases h : ∃ text, r.block.ReadsBack parser past text
    · obtain ⟨text, htext⟩ := h
      cases hcheck : (r.check store past text).outcome with
      | error e' =>
        rw [run_of_check_error htext hcheck] at hrun
        simp only [Except.error.injEq, RequestError.proof.injEq] at hrun
        exact ⟨text, htext, by rw [hcheck, hrun]⟩
      | ok b =>
        cases b with
        | false => rw [run_of_check_false htext hcheck] at hrun; simp at hrun
        | true =>
          rw [run_of_check_true htext hcheck] at hrun
          rcases execute_outcome store (r.check store past text).log r text with
            ⟨e, he⟩ | he | ⟨_, _, _, _, he⟩ <;> simp [he] at hrun
    · obtain ⟨-, e', he, hkind⟩ := run_of_not_readsBack store (not_exists.1 h)
      rw [he] at hrun
      rcases hkind with ⟨x, rfl⟩ | ⟨x, rfl⟩ | ⟨t, d, rfl⟩ <;> simp at hrun
  · rintro ⟨text, htext, hcheck⟩
    rw [run_of_check_error htext hcheck]

/-- A value is what the store answered to the block's own text, asked last, with the
block's fallbacks filled in. -/
theorem run_outcome_eq_ok {v : Json} (hrun : (r.run parser store past).outcome = .ok v) :
    ∃ text texts body answer, r.block.ReadsBack parser past text ∧
      (r.run parser store past).log
        = ((r.block.afterReading past text).asking texts).add (.execute ⟨text, r.values⟩) ∧
      store ((r.block.afterReading past text).asking texts) ⟨text, r.values⟩ = .ok body ∧
      Json.ofBytes? body = some answer ∧
      v = Response.applyFallbacks r.block.queries answer := by
  by_cases h : ∃ text, r.block.ReadsBack parser past text
  · obtain ⟨text, htext⟩ := h
    obtain ⟨texts, -, hlog, -, -⟩ := run_executed_of_readsBack store htext
    cases hcheck : (r.check store past text).outcome with
    | error e => rw [run_of_check_error htext hcheck] at hrun; simp at hrun
    | ok b =>
      cases b with
      | false => rw [run_of_check_false htext hcheck] at hrun; simp at hrun
      | true =>
        rw [run_of_check_true htext hcheck, hlog] at hrun ⊢
        rcases execute_outcome store ((r.block.afterReading past text).asking texts) r text with
          ⟨e, he⟩ | he | ⟨body, answer, hstore, hjson, he⟩
        · simp [he] at hrun
        · simp [he] at hrun
        · rw [he, Except.ok.injEq] at hrun
          exact ⟨text, texts, body, answer, htext, execute_log store _ r text, hstore, hjson,
            hrun.symm⟩
  · obtain ⟨-, e, he, -⟩ := run_of_not_readsBack store (not_exists.1 h)
    rw [he] at hrun
    simp at hrun

/-- **What reaches the store while a request is answered.** Nothing if the block does
not read back; else a beginning of its proofs, each alone and without variables, and
behind them the block's own text exactly if all roots are lookups and these proofs have
confirmed every foreign identifier. The run ends unauthorized exactly if the check says
no, with a proof's error exactly if the check ends in it, and with a value only of what
the store answered to the block's own text. -/
theorem run_store_calls :
    ((∀ text, ¬ r.block.ReadsBack parser past text) →
      (r.run parser store past).log.executed = past.executed) ∧
    (∀ text, r.block.ReadsBack parser past text →
      ∃ texts, WrittenProofs r.proofs (foreignIds r.identity r.block.queries) texts ∧
        ((r.run parser store past).log.executed
            = past.executed ++ texts.map (fun t => ⟨t, .empty⟩) ∨
          (r.run parser store past).log.executed
            = past.executed ++ texts.map (fun t => ⟨t, .empty⟩) ++ [⟨text, r.values⟩]) ∧
        ((r.run parser store past).log.executed
            = past.executed ++ texts.map (fun t => ⟨t, .empty⟩) ++ [⟨text, r.values⟩] ↔
          (∀ q ∈ r.block.queries, IsLookup q) ∧
            ConfirmedInTurn store (r.block.afterReading past text) r.proofs
              (foreignIds r.identity r.block.queries) texts)) ∧
    (∀ i, (r.run parser store past).outcome = .error (.unauthorized i) ↔
      i = r.identity ∧
        ∃ text, r.block.ReadsBack parser past text ∧
          (allows store (r.block.afterReading past text) r.block.queries r.identity
            r.proofs).outcome = .ok false) ∧
    (∀ e, (r.run parser store past).outcome = .error (.proof e) ↔
      ∃ text, r.block.ReadsBack parser past text ∧
        (allows store (r.block.afterReading past text) r.block.queries r.identity
          r.proofs).outcome = .error e) ∧
    (∀ v, (r.run parser store past).outcome = .ok v →
      ∃ text texts body answer, r.block.ReadsBack parser past text ∧
        (r.run parser store past).log
          = ((r.block.afterReading past text).asking texts).add (.execute ⟨text, r.values⟩) ∧
        store ((r.block.afterReading past text).asking texts) ⟨text, r.values⟩ = .ok body ∧
        Json.ofBytes? body = some answer ∧
        v = Response.applyFallbacks r.block.queries answer) := by
  refine ⟨fun h => (run_of_not_readsBack store h).1, fun text htext => ?_,
    run_outcome_unauthorized_iff parser store past r, run_outcome_proof_iff parser store past r,
    fun v hv => run_outcome_eq_ok parser store past r hv⟩
  obtain ⟨texts, hw, hlog, hyes, hno⟩ := run_executed_of_readsBack store htext
  refine ⟨texts, hw, ?_⟩
  -- what was asked ends in the block's own text exactly if the check says yes
  rw [← check_outcome_eq_true_iff hlog]
  by_cases hcheck : (r.check store past text).outcome = .ok true
  · exact ⟨Or.inr (hyes hcheck), iff_of_true (hyes hcheck) hcheck⟩
  · refine ⟨Or.inl (hno hcheck), iff_of_false (fun h => ?_) hcheck⟩
    rw [hno hcheck] at h
    simp at h

/-! ## A root that names no identifier -/

/-- A request for all nodes that have a name. -/
def scan : Request :=
  { block := { queries := [
      { clause := { aliasName := "q", call := some { name := "has", attr := "name" } } }] },
    identity := 1 }

/-- A root that is no lookup is refused although no foreign identifier is left to
confirm: that every foreign identifier has been confirmed does not suffice for the
block's own text to reach the store. -/
theorem scan_root_refused :
    ∃ text,
      scan.block.ReadsBack (fun _ _ => .ok (Query.allToParsed scan.block.queries)) ⟨[]⟩ text ∧
      foreignIds scan.identity scan.block.queries = [] ∧
      ConfirmedInTurn (fun _ _ => .ok "\x7b\x7d".toUTF8)
        (scan.block.afterReading ⟨[]⟩ text) scan.proofs
        (foreignIds scan.identity scan.block.queries) [] ∧
      (scan.run (fun _ _ => .ok (Query.allToParsed scan.block.queries))
        (fun _ _ => .ok "\x7b\x7d".toUTF8) ⟨[]⟩).log.executed = [] ∧
      (scan.run (fun _ _ => .ok (Query.allToParsed scan.block.queries))
        (fun _ _ => .ok "\x7b\x7d".toUTF8) ⟨[]⟩).outcome = .error (.unauthorized 1) := by
  have hids : foreignIds scan.identity scan.block.queries = [] := rfl
  refine ⟨_, ⟨rfl, _, rfl, rfl⟩, hids, ?_, rfl, rfl⟩
  rw [hids]
  exact confirmedInTurn_nil.2 rfl

end Request

end Dql
