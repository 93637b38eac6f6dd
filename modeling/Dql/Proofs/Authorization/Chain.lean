import Dql.Proofs.Authorization.Confirmation

/-!
# Which nodes of a proof an answer is read through

The check of a proof looks at its root and at the text that the store's answer ends in;
what lies between is the requester's choice. If the members `proof` of the answer are
the results of nodes of that name, the two meet step by step: the objects that the path
goes through belong to a chain of nodes from the root of the proof downwards, one node
for each object, all of them named `proof` (`exists_chain`). This is what an accepted
proof comes to for each foreign identifier (`chain_of_allows`).

What the last node of the chain asks for is not looked at. Where it is a stored value,
that value decides; and where the store answers with more objects than the proof has
nodes, there is no chain at all (`allowed_by_stored_value`).
-/

namespace Dql

namespace Authorization

/-! ## The steps of a path -/

mutual

/-- The number of objects that the path through an answer goes through. -/
def objectSteps : Json → Nat
  | .object members => memberSteps members
  | .array items => firstSteps items
  | _ => 0

/-- The number of objects from the one with these members onwards. -/
def memberSteps : List (String × Json) → Nat
  | [] => 0
  | (k, x) :: rest => if k = proofKey then objectSteps x + 1 else memberSteps rest

/-- The number of objects from the first item onwards. -/
def firstSteps : List Json → Nat
  | [] => 0
  | x :: _ => objectSteps x

end

/-! ## Answers and the nodes they are of -/

mutual

/-- An answer is of the queries as far as the path can see: each member `proof` of an
object is the result of one of them, under its name, and what is in it is of the nodes
below that one. -/
def AnswerOf : List Query → Json → Prop
  | queries, .object members => MembersOf queries members
  | queries, .array items => ItemsOf queries items
  | _, _ => True

/-- The members `proof` are results of the queries. -/
def MembersOf : List Query → List (String × Json) → Prop
  | _, [] => True
  | queries, (k, x) :: rest =>
    (k = proofKey → ∃ q ∈ queries, q.resultName = k ∧ AnswerOf q.children x) ∧
      MembersOf queries rest

/-- The items are answers of the queries. -/
def ItemsOf : List Query → List Json → Prop
  | _, [] => True
  | queries, x :: rest => AnswerOf queries x ∧ ItemsOf queries rest

end

/-- A chain of nodes named `proof`: one of the queries, one of the nodes below it, and
so on. -/
def IsChain : List Query → List Query → Prop
  | _, [] => True
  | queries, q :: rest => q ∈ queries ∧ q.resultName = proofKey ∧ IsChain q.children rest

mutual

/-- **The objects on the path belong to a chain of nodes**, one node for each. -/
theorem exists_chain : ∀ {queries : List Query} {answer : Json}, AnswerOf queries answer →
    ∃ chain, IsChain queries chain ∧ chain.length = objectSteps answer
  | _, .object members, h => by
    rw [AnswerOf] at h
    rw [objectSteps]
    exact exists_chain_of_members h
  | _, .array items, h => by
    rw [AnswerOf] at h
    rw [objectSteps]
    exact exists_chain_of_items h
  | _, .string _, _ => ⟨[], trivial, rfl⟩
  | _, .null, _ => ⟨[], trivial, rfl⟩
  | _, .bool _, _ => ⟨[], trivial, rfl⟩
  | _, .number _, _ => ⟨[], trivial, rfl⟩

theorem exists_chain_of_members : ∀ {queries : List Query} {members : List (String × Json)},
    MembersOf queries members →
      ∃ chain, IsChain queries chain ∧ chain.length = memberSteps members
  | _, [], _ => ⟨[], trivial, rfl⟩
  | _, (k, x) :: rest, h => by
    rw [MembersOf] at h
    rw [memberSteps]
    by_cases hk : k = proofKey
    · -- the member belongs to a node, and what is in it to the nodes below
      obtain ⟨q, hq, hname, hbelow⟩ := h.1 hk
      obtain ⟨chain, hchain, hlength⟩ := exists_chain hbelow
      refine ⟨q :: chain, ⟨hq, hname.trans hk, hchain⟩, ?_⟩
      rw [if_pos hk, List.length_cons, hlength]
    · rw [if_neg hk]
      exact exists_chain_of_members h.2

theorem exists_chain_of_items : ∀ {queries : List Query} {items : List Json},
    ItemsOf queries items → ∃ chain, IsChain queries chain ∧ chain.length = firstSteps items
  | _, [], _ => ⟨[], trivial, rfl⟩
  | _, x :: rest, h => by
    rw [ItemsOf] at h
    rw [firstSteps]
    exact exists_chain h.1

end

/-! ## Accepted proofs -/

/-- **What an accepted proof is read through.** Where a requester is allowed, each foreign
identifier has a proof that looks up the requester's own node and nothing else; the store
was asked the proof's text, and its answer ends in the identifier. If the answer is of the
proof, there is a chain of nodes named `proof` from the proof's root downwards, as many as
the objects that the answer was read through. -/
theorem chain_of_allows (store : Store) (log : Log) (queries : List Query) (identity : Uid)
    (proofs : Table Uid Query)
    (h : (allows store log queries identity proofs).outcome = .ok true) :
    ∃ texts, (allows store log queries identity proofs).log = log.asking texts ∧
      texts.length = (foreignIds identity queries).length ∧
      ∀ (i : Nat) (u : Uid), (foreignIds identity queries)[i]? = some u →
        ∃ text p body answer value, texts[i]? = some text ∧
          proofs.find? u = some p ∧ IsLookup p ∧ p.clause.ids = [identity] ∧
          Block.render { queries := [p] } = .ok text ∧
          store (log.asking (texts.take i)) ⟨text, .empty⟩ = .ok body ∧
          Json.ofBytes? body = some answer ∧
          followProof answer = .ok value ∧ Uid.parse? value = .ok u ∧
          (AnswerOf [p] answer →
            ∃ chain, IsChain [p] chain ∧ chain.length = objectSteps answer) := by
  obtain ⟨hadm, texts, hconfirmed⟩ := (allows_outcome_eq_true_iff store log).1 h
  refine ⟨texts, by rw [allows_eq_of_confirmedInTurn store log hadm hconfirmed],
    hconfirmed.1, fun i u hu => ?_⟩
  -- the text at the place of an identifier is that of its proof
  have hi : i < texts.length := by
    rw [hconfirmed.1]
    exact (List.getElem?_eq_some_iff.1 hu).1
  have htext : texts[i]? = some texts[i] := List.getElem?_eq_getElem hi
  obtain ⟨⟨p, hfind, hrender⟩, body, hbody, answer, value, hjson, hpath, hparse⟩ :=
    hconfirmed.2 i u texts[i] hu htext
  obtain ⟨p', hfind', hlookup, hids⟩ := hadm.rooted u (List.mem_of_getElem? hu)
  obtain rfl := Option.some.inj (hfind.symm.trans hfind')
  exact ⟨texts[i], p, body, answer, value, htext, hfind, hlookup, hids, hrender, hbody, hjson,
    hpath, hparse, exists_chain⟩

/-! ## What the last node asks for -/

/-- A node named `proof` that asks for an attribute. -/
def lastStep (attr : String) : Query :=
  { clause := { aliasName := "proof", attr := attr } }

/-- A proof of the requester 1 with one node below the root, which asks for an attribute. -/
def oneStepProof (attr : String) : Query :=
  { clause := { aliasName := "proof", call := some lookupCall, ids := [1] },
    children := [lastStep attr] }

/-- The chains in a proof of two nodes are the beginnings of it. -/
theorem isChain_oneStepProof {attr : String} {chain : List Query}
    (h : IsChain [oneStepProof attr] chain) :
    chain = [] ∨ chain = [oneStepProof attr] ∨ chain = [oneStepProof attr, lastStep attr] := by
  match chain, h with
  | [], _ => exact Or.inl rfl
  | [q], h =>
    obtain rfl := List.mem_singleton.1 h.1
    exact Or.inr (Or.inl rfl)
  | [q, r], h =>
    obtain rfl := List.mem_singleton.1 h.1
    obtain rfl := List.mem_singleton.1 h.2.2.1
    exact Or.inr (Or.inr rfl)
  | q :: r :: s :: _, h =>
    -- below the last node there is none
    obtain rfl := List.mem_singleton.1 h.1
    obtain rfl := List.mem_singleton.1 h.2.2.1
    exact absurd h.2.2.2.2.1 List.not_mem_nil

/-- A request for the node 2. -/
def secondNode : List Query :=
  [{ clause := { aliasName := "q", call := some lookupCall, ids := [2] } }]

/-- The answer that the attribute of the node 1 is the text `0x02`. -/
def oneStepBody : ByteArray := "\x7b\"proof\":[\x7b\"proof\":\"0x02\"\x7d]\x7d".toUTF8

theorem ofBytes?_oneStepBody :
    Json.ofBytes? oneStepBody
      = some (.object [("proof", .array [.object [("proof", .string "0x02")]])]) :=
  (Json.ofBytes?_ofList _).trans rfl

/-- An answer that goes one object deeper than a proof of two nodes can ask for. -/
def twoStepBody : ByteArray :=
  "\x7b\"proof\":\x7b\"proof\":\x7b\"proof\":\"0x02\"\x7d\x7d\x7d".toUTF8

theorem ofBytes?_twoStepBody :
    Json.ofBytes? twoStepBody
      = some (.object [("proof", .object [("proof", .object [("proof", .string "0x02")])])]) :=
  (Json.ofBytes?_ofList _).trans rfl

/-- Any answer whose path ends in `0x02` lets the requester have the node 2. -/
theorem allows_secondNode {attr text : String} {body : ByteArray} {answer : Json}
    (hrender : Block.render { queries := [oneStepProof attr] } = .ok text)
    (hjson : Json.ofBytes? body = some answer) (hpath : followProof answer = .ok "0x02") :
    (allows (fun _ _ => .ok body) ⟨[]⟩ secondNode 1 (.ofList [(2, oneStepProof attr)])).outcome
      = .ok true := by
  have hfind : (Table.ofList [(2, oneStepProof attr)]).find? (2 : Uid)
      = some (oneStepProof attr) := rfl
  have hids : foreignIds 1 secondNode = [2] := rfl
  refine (allows_outcome_eq_true_iff _ _).2 ⟨⟨?_, ?_⟩, [text], ?_⟩
  · intro q hq
    obtain rfl : q = _ := List.mem_singleton.1 hq
    exact ⟨rfl, rfl⟩
  · intro u hu
    rw [hids] at hu
    obtain rfl : u = 2 := List.mem_singleton.1 hu
    exact ⟨oneStepProof attr, hfind, ⟨rfl, rfl⟩, rfl⟩
  · rw [hids]
    exact confirmedInTurn_cons.2 ⟨text, [], body, rfl, ⟨_, hfind, hrender⟩, rfl,
      ⟨answer, "0x02", hjson, hpath, rfl⟩, confirmedInTurn_nil.2 rfl⟩

/-- A proof that ends at an identifier is accepted, and its answer is read through its two
nodes. -/
theorem chain_of_allows_uid :
    (allows (fun _ _ => .ok oneStepBody) ⟨[]⟩ secondNode 1
        (.ofList [(2, oneStepProof "uid")])).outcome = .ok true ∧
      ∃ p answer, (Table.ofList [(2, oneStepProof "uid")]).find? (2 : Uid) = some p ∧
        Json.ofBytes? oneStepBody = some answer ∧ followProof answer = .ok "0x02" ∧
        ∃ chain, IsChain [p] chain ∧ chain.length = 2 := by
  obtain ⟨text, hrender⟩ : ∃ t, Block.render { queries := [oneStepProof "uid"] } = .ok t :=
    ⟨_, rfl⟩
  have hallowed := allows_secondNode hrender ofBytes?_oneStepBody rfl
  obtain ⟨texts, -, -, hall⟩ := chain_of_allows _ _ _ _ _ hallowed
  obtain ⟨_, p, body, answer, value, -, hfind, -, -, -, hbody, hjson, hpath, -, hchain⟩ :=
    hall 0 2 rfl
  obtain rfl := Except.ok.inj hbody
  obtain rfl := Option.some.inj (ofBytes?_oneStepBody.symm.trans hjson)
  obtain rfl := Option.some.inj hfind
  refine ⟨hallowed, _, _, rfl, hjson, rfl, hchain ?_⟩
  simp [AnswerOf, MembersOf, ItemsOf, oneStepProof, lastStep, Query.resultName, Clause.resultName]

/-- **A stored value decides.** The proof is accepted, and the answer is of its nodes; but
the node that the identifier was read from asks for the attribute `name`. A chain of the
length of the path has no end but this. And a store that answers with more objects than
the proof has nodes is followed all the same, with no chain for its path. -/
theorem allowed_by_stored_value :
    (allows (fun _ _ => .ok oneStepBody) ⟨[]⟩ secondNode 1
        (.ofList [(2, oneStepProof "name")])).outcome = .ok true ∧
      (∃ answer, Json.ofBytes? oneStepBody = some answer ∧ AnswerOf [oneStepProof "name"] answer ∧
        ∀ chain last, IsChain [oneStepProof "name"] chain → chain.length = objectSteps answer →
          chain.getLast? = some last → last.clause.attr = "name") ∧
      (allows (fun _ _ => .ok twoStepBody) ⟨[]⟩ secondNode 1
        (.ofList [(2, oneStepProof "name")])).outcome = .ok true ∧
      ∃ answer, Json.ofBytes? twoStepBody = some answer ∧
        ∀ chain, IsChain [oneStepProof "name"] chain → chain.length ≠ objectSteps answer := by
  obtain ⟨text, hrender⟩ : ∃ t, Block.render { queries := [oneStepProof "name"] } = .ok t :=
    ⟨_, rfl⟩
  refine ⟨allows_secondNode hrender ofBytes?_oneStepBody rfl,
    ⟨_, ofBytes?_oneStepBody, ?_, ?_⟩,
    allows_secondNode hrender ofBytes?_twoStepBody rfl, _, ofBytes?_twoStepBody, ?_⟩
  · simp [AnswerOf, MembersOf, ItemsOf, oneStepProof, lastStep, Query.resultName, Clause.resultName]
  · intro chain last hchain hlength hlast
    rcases isChain_oneStepProof hchain with rfl | rfl | rfl
    · simp at hlast
    · exact absurd hlength (by decide)
    · obtain rfl : lastStep "name" = last := by simpa using hlast
      rfl
  · intro chain hchain
    rcases isChain_oneStepProof hchain with rfl | rfl | rfl <;> decide

end Authorization

end Dql
