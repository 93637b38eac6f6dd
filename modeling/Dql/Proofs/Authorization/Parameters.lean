import Dql.Proofs.Authorization.Chain
import Dql.Proofs.Authorization.Identifiers

/-!
# Orderings and arguments of a root are free

The list in the brackets of a root starts with a lookup of the identifiers that were
checked. Behind it stand the orderings and the arguments of the root, and these may
hold identifiers too: `from` and `to` of a shortest path do. They are written as they
are, and nothing looks at them before.

* They have no part in the check: with any others in their place, it runs as it did
  (`allows_withoutParameters`).
* They have no part in whether there is a text (`exists_allRootLines`).

So whatever is allowed is allowed with any identifiers in its orderings and arguments
(`parameters_unchecked`), and not only those of nodes that were confirmed
(`shortestPath_unchecked`).
-/

namespace Dql

open Text

/-! ## Roots without orderings and arguments -/

/-- A query without orderings and arguments of its own. -/
def Query.withoutParameters (q : Query) : Query :=
  { q with clause := { q.clause with orders := [], arguments := .empty } }

/-- Blocks whose roots differ in orderings and arguments only. -/
def Block.SameLookups (b b' : Block) : Prop :=
  b.queries.map Query.withoutParameters = b'.queries.map Query.withoutParameters

/-- The list in the brackets of a root that is a lookup. -/
def Clause.lookupList (c : Clause) : List String :=
  ("func: uid(" ++ join ", " (c.ids.map Uid.format) ++ ")") :: (c.orderTexts ++ c.argumentTexts)

/-- The line that opens a root that is a lookup, with its directives. -/
def Clause.lookupRootLine (c : Clause) (directives : String) : String :=
  indent 1 ++ c.bindingText ++ c.resultName ++ "(" ++ join ", " c.lookupList ++ ")" ++
    directives ++ " \x7b"

namespace Scope

theorem declared_withoutParameters (qs : List Query) :
    declared (qs.map Query.withoutParameters) = declared qs := by
  induction qs with
  | nil => rfl
  | cons q rest ih =>
    obtain ⟨clause, fallback, children⟩ := q
    rw [List.map_cons, declared, declared, ih]
    rfl

theorem references_withoutParameters (qs : List Query) :
    references (qs.map Query.withoutParameters) = references qs := by
  induction qs with
  | nil => rfl
  | cons q rest ih =>
    obtain ⟨clause, fallback, children⟩ := q
    rw [List.map_cons, references, references, ih]
    rfl

/-- Orderings and arguments of a root are no uses of variables. -/
theorem check_withoutParameters (qs : List Query) :
    check (qs.map Query.withoutParameters) = check qs := by
  unfold check checkIn
  rw [declared_withoutParameters, references_withoutParameters]

end Scope

namespace Authorization

/-! ## The check -/

theorem pendingProofs?_withoutParameters (identity : Uid) (proofs : Table Uid Query)
    (qs : List Query) :
    pendingProofs? identity proofs (qs.map Query.withoutParameters)
      = pendingProofs? identity proofs qs := by
  induction qs with
  | nil => rfl
  | cons q rest ih =>
    have hlookup : isPlainLookup q.withoutParameters = isPlainLookup q := rfl
    have hids : q.withoutParameters.clause.ids = q.clause.ids := rfl
    rw [List.map_cons, pendingProofs?, pendingProofs?, hlookup, hids, ih]

/-- **Orderings and arguments have no part in the check.** -/
theorem allows_withoutParameters (store : Store) (log : Log) (qs : List Query) (identity : Uid)
    (proofs : Table Uid Query) :
    allows store log (qs.map Query.withoutParameters) identity proofs
      = allows store log qs identity proofs := by
  unfold allows
  rw [pendingProofs?_withoutParameters]

/-- The store's answer to the proof for an identifier leads to the identifier. -/
def Confirmed (store : Store) (proofs : Table Uid Query) (u : Uid) : Prop :=
  ∃ past text body, ProofText proofs u text ∧ store past ⟨text, .empty⟩ = .ok body ∧
    LeadsTo body u

section Check

variable {store : Store} {log : Log} {proofs : Table Uid Query} {identity : Uid}

theorem ConfirmedInTurn.confirmed {past : Log} {us : List Uid} {texts : List String}
    (h : ConfirmedInTurn store past proofs us texts) : ∀ u ∈ us, Confirmed store proofs u := by
  intro u hu
  obtain ⟨hlen, hall⟩ := h
  obtain ⟨i, hi, rfl⟩ := List.mem_iff_getElem.1 hu
  have htext : i < texts.length := by omega
  obtain ⟨hproof, body, hbody, hleads⟩ := hall i us[i] texts[i]
    (List.getElem?_eq_getElem hi) (List.getElem?_eq_getElem htext)
  exact ⟨_, _, body, hproof, hbody, hleads⟩

/-- The identifiers on queries that are allowed are the requester's or confirmed. -/
theorem ids_confirmed {qs : List Query}
    (h : (allows store log qs identity proofs).outcome = .ok true) :
    ∀ q ∈ qs, ∀ u ∈ q.clause.ids, u = identity ∨ Confirmed store proofs u := by
  obtain ⟨-, texts, hconfirmed⟩ := (allows_outcome_eq_true_iff store log).1 h
  intro q hq u hu
  by_cases hown : u = identity
  · exact Or.inl hown
  · refine Or.inr (hconfirmed.confirmed u ?_)
    unfold foreignIds
    rw [List.mem_filter]
    exact ⟨List.mem_flatMap.2 ⟨q, hq, hu⟩, by simpa using hown⟩

end Check

/-! ## The text -/

section Text

/-- A root that is a lookup has a line exactly if it has a name and its directives have a
text. -/
theorem rootLine_eq_ok_iff {q : Query} (h : isPlainLookup q = true) {hasChildren : Bool}
    {line : String} :
    q.clause.rootLine 1 hasChildren = .ok line ↔
      q.clause.resultName ≠ "" ∧ ∃ directives,
        q.clause.directives true hasChildren = .ok directives ∧
          line = q.clause.lookupRootLine directives := by
  obtain ⟨hcall, hattr⟩ := isPlainLookup_iff.1 h
  have hwritten := Clause.functionText_lookup hattr
  have hname := String.isEmpty_iff (s := q.clause.resultName)
  rw [Clause.rootLine_eq, hcall]
  dsimp only
  rw [hwritten]
  by_cases hempty : q.clause.resultName = ""
  · rw [if_pos (hname.2 hempty)]
    constructor
    · intro hline
      obtain ⟨_, hthrow, _⟩ := exists_of_bind_eq_ok hline
      cases hthrow
    · rintro ⟨hne, -⟩
      exact absurd hempty hne
  · rw [if_neg (fun hyes => hempty (hname.1 hyes))]
    constructor
    · intro hline
      obtain ⟨function, hfunction, hline⟩ := exists_of_bind_eq_ok hline
      obtain rfl := Except.ok.inj hfunction
      obtain ⟨directives, hdirectives, hline⟩ := exists_of_bind_eq_ok hline
      exact ⟨hempty, directives, hdirectives, (Except.ok.inj hline).symm⟩
    · rintro ⟨-, directives, hdirectives, rfl⟩
      rw [hdirectives]
      rfl

/-- Lines hold the one that opens a root which is a lookup. -/
def OpensLookup (q : Query) (lines : List String) : Prop :=
  ∃ directives, q.clause.directives true (!q.children.isEmpty) = .ok directives ∧
    q.clause.lookupRootLine directives ∈ lines

/-- With other orderings and arguments, a root still has lines. -/
theorem exists_rootLines {q q' : Query} (hlookup : isPlainLookup q = true)
    (hsame : q.withoutParameters = q'.withoutParameters) {lines : List String}
    (h : q.rootLines 1 = .ok lines) :
    ∃ lines', q'.rootLines 1 = .ok lines' ∧ OpensLookup q' lines' := by
  -- all that a root is written from, but for its list, can be seen without parameters
  have hlookup' : isPlainLookup q' = true := by
    show isPlainLookup q'.withoutParameters = true
    rw [← hsame]
    exact hlookup
  have hname : q.clause.resultName = q'.clause.resultName := by
    show q.withoutParameters.clause.resultName = q'.withoutParameters.clause.resultName
    rw [hsame]
  have hchildren : q.children = q'.children := by
    show q.withoutParameters.children = q'.withoutParameters.children
    rw [hsame]
  have hdirectives : q.clause.directives true (!q.children.isEmpty)
      = q'.clause.directives true (!q'.children.isEmpty) := by
    show q.withoutParameters.clause.directives true (!q.withoutParameters.children.isEmpty)
      = q'.withoutParameters.clause.directives true (!q'.withoutParameters.children.isEmpty)
    rw [hsame]
  rw [Query.rootLines_eq] at h
  obtain ⟨line, hline, h⟩ := exists_of_bind_eq_ok h
  obtain ⟨below, hbelow, h⟩ := exists_of_bind_eq_ok h
  obtain ⟨hnamed, directives, hwritten, rfl⟩ := (rootLine_eq_ok_iff hlookup).1 hline
  rw [hname] at hnamed
  rw [hdirectives] at hwritten
  rw [hchildren] at hbelow
  have hline' := (rootLine_eq_ok_iff hlookup').2 ⟨hnamed, directives, hwritten, rfl⟩
  refine ⟨q'.clause.lookupRootLine directives :: below ++ [closingLine 1], ?_, directives,
    hwritten, by simp⟩
  rw [Query.rootLines_eq, hline', hbelow]
  rfl

theorem exists_allRootLines {qs qs' : List Query} (hlookups : ∀ q ∈ qs, isPlainLookup q = true)
    (hsame : qs.map Query.withoutParameters = qs'.map Query.withoutParameters)
    {lines : List String} (h : Query.allRootLines 1 qs = .ok lines) :
    ∃ lines', Query.allRootLines 1 qs' = .ok lines' ∧ ∀ q ∈ qs', OpensLookup q lines' := by
  induction qs generalizing qs' lines with
  | nil =>
    obtain rfl := List.map_eq_nil_iff.1 hsame.symm
    exact ⟨[], rfl, fun q hq => absurd hq List.not_mem_nil⟩
  | cons q rest ih =>
    cases qs' with
    | nil => exact absurd hsame (by simp)
    | cons q' rest' =>
      rw [List.map_cons, List.map_cons] at hsame
      obtain ⟨hfirst, hrest⟩ := List.cons.inj hsame
      rw [List.forall_mem_cons] at hlookups
      rw [Query.allRootLines_cons] at h
      obtain ⟨first, hfirstLines, h⟩ := exists_of_bind_eq_ok h
      obtain ⟨more, hmoreLines, h⟩ := exists_of_bind_eq_ok h
      obtain ⟨first', hfirst', hopens⟩ := exists_rootLines hlookups.1 hfirst hfirstLines
      obtain ⟨more', hmore', hall⟩ := ih hlookups.2 hrest hmoreLines
      refine ⟨first' ++ more', ?_, ?_⟩
      · rw [Query.allRootLines_cons, hfirst', hmore']
        rfl
      · intro p hp
        rcases List.mem_cons.1 hp with rfl | hp
        · obtain ⟨directives, hwritten, hline⟩ := hopens
          exact ⟨directives, hwritten, List.mem_append_left _ hline⟩
        · obtain ⟨directives, hwritten, hline⟩ := hall p hp
          exact ⟨directives, hwritten, List.mem_append_right _ hline⟩

/-- With other orderings and arguments on its roots, a block of lookups still has a text,
and each of its roots is opened by the line of a lookup. -/
theorem exists_render {b b' : Block} {text : String}
    (hlookups : ∀ q ∈ b.queries, isPlainLookup q = true) (hsame : b.SameLookups b')
    (h : b.render = .ok text) :
    ∃ lines, b'.lines = .ok lines ∧ b'.render = .ok (normalize (join "\n" lines)) ∧
      ∀ q ∈ b'.queries, OpensLookup q lines := by
  rw [Block.render_eq] at h
  obtain ⟨_, hcheck, h⟩ := exists_of_bind_eq_ok h
  obtain ⟨lines, hlines, -⟩ := exists_of_bind_eq_ok h
  rw [Block.lines_eq] at hlines
  obtain ⟨roots, hroots, rfl⟩ := exists_of_map_eq_ok hlines
  obtain ⟨roots', hroots', hopens⟩ := exists_allRootLines hlookups hsame hroots
  have hlines' : b'.lines = .ok (b'.header :: roots' ++ ["\x7d"]) := by
    rw [Block.lines_eq, hroots']
    rfl
  have hcheck' : Scope.check b'.queries = .ok () := by
    rw [← Scope.check_withoutParameters, ← hsame, Scope.check_withoutParameters]
    exact hcheck
  refine ⟨_, hlines', ?_, ?_⟩
  · rw [Block.render_eq, hcheck', hlines']
    rfl
  · intro q hq
    obtain ⟨directives, hwritten, hline⟩ := hopens q hq
    exact ⟨directives, hwritten, by simp [hline]⟩

end Text

/-! ## Both together -/

section Unchecked

variable {store : Store} {log : Log} {proofs : Table Uid Query} {identity : Uid}

/-- What is allowed and has a text is so with any other orderings and arguments. -/
theorem allowed_and_written {b b' : Block} {text : String} (hsame : b.SameLookups b')
    (hallowed : (allows store log b.queries identity proofs).outcome = .ok true)
    (hrender : b.render = .ok text) :
    allows store log b'.queries identity proofs = allows store log b.queries identity proofs ∧
      ∃ lines, b'.lines = .ok lines ∧ b'.render = .ok (normalize (join "\n" lines)) ∧
        ∀ q ∈ b'.queries, OpensLookup q lines := by
  constructor
  · rw [← allows_withoutParameters, ← hsame, allows_withoutParameters]
  · have hlookups : ∀ q ∈ b.queries, isPlainLookup q = true := by
      obtain ⟨hadmissible, -⟩ := (allows_outcome_eq_true_iff store log).1 hallowed
      intro q hq
      exact isPlainLookup_iff.2 (hadmissible.lookups q hq)
    exact exists_render hlookups hsame hrender

/-- **Orderings and arguments of a root are not checked.** Where a block is allowed and has
a text, the identifiers that its roots look up are the requester's or confirmed. With any
other orderings and arguments on its roots, the check runs as it did, and there is a text
with these behind the lookups. -/
theorem parameters_unchecked {b : Block} {text : String}
    (hallowed : (allows store log b.queries identity proofs).outcome = .ok true)
    (hrender : b.render = .ok text) :
    (∀ q ∈ b.queries, ∀ u ∈ q.clause.ids, u = identity ∨ Confirmed store proofs u) ∧
      ∀ b', b.SameLookups b' →
        allows store log b'.queries identity proofs = allows store log b.queries identity proofs ∧
        ∃ lines, b'.lines = .ok lines ∧ b'.render = .ok (normalize (join "\n" lines)) ∧
          ∀ q ∈ b'.queries, OpensLookup q lines :=
  ⟨ids_confirmed hallowed, fun _ hsame => allowed_and_written hsame hallowed hrender⟩

end Unchecked

/-- A lookup of the node 2 that passes over the nodes up to the node 3. -/
def behindThird : Block where
  queries := [{
    clause := {
      aliasName := "q", call := some lookupCall, ids := [2],
      arguments := .ofList [("after", "0x03")] } }]

theorem parameters_unchecked_behindThird :
    (allows (fun _ _ => .ok oneStepBody) ⟨[]⟩ behindThird.queries 1
        (.ofList [(2, oneStepProof "uid")])).outcome = .ok true ∧
      Confirmed (fun _ _ => .ok oneStepBody) (.ofList [(2, oneStepProof "uid")]) 2 ∧
      ∃ lines, behindThird.lines = .ok lines ∧
        "    q(func: uid(0x02), after: 0x03) \x7b" ∈ lines := by
  obtain ⟨proofText, hproof⟩ :
      ∃ t, Block.render { queries := [oneStepProof "uid"] } = .ok t := ⟨_, rfl⟩
  have hallowed := allows_secondNode hproof ofBytes?_oneStepBody rfl
  obtain ⟨text, hrender⟩ : ∃ t, Block.render { queries := secondNode } = .ok t := ⟨_, rfl⟩
  obtain ⟨hconfirmed, hothers⟩ := parameters_unchecked (b := { queries := secondNode })
    hallowed hrender
  obtain ⟨hcheck, lines, hlines, -, hopens⟩ := hothers behindThird rfl
  refine ⟨hcheck.symm ▸ hallowed, ?_, lines, hlines, ?_⟩
  · have hown := hconfirmed _ (List.mem_singleton.2 rfl) 2 (by decide)
    exact hown.resolve_left (by decide)
  · obtain ⟨directives, hdirectives, hline⟩ := hopens _ (List.mem_singleton.2 rfl)
    obtain rfl : "" = directives := Except.ok.inj hdirectives
    exact hline

/-! ## Nodes that are named without a proof -/

/-- A root names a node beside its lookup: the value of one of its orderings or arguments
is written as `0x` and the digits of an identifier. -/
def NamesBeside (q : Query) (u : Uid) : Prop :=
  ∃ key literal, key ++ ": " ++ literal ∈ q.clause.orderTexts ++ q.clause.argumentTexts ∧
    "0x".toList <+: literal.toList ∧ Uid.parse? literal = .ok u

/-- **Any node can be named**: whatever is allowed and has a text is so with an argument on
each of its roots that names the node. -/
theorem exists_namesBeside {store : Store} {log : Log} {proofs : Table Uid Query} {identity : Uid}
    {b : Block} {text : String}
    (hallowed : (allows store log b.queries identity proofs).outcome = .ok true)
    (hrender : b.render = .ok text) (u : Uid) :
    ∃ b' text', b.SameLookups b' ∧ b'.render = .ok text' ∧
      allows store log b'.queries identity proofs = allows store log b.queries identity proofs ∧
      ∀ q ∈ b'.queries, NamesBeside q u := by
  -- the argument takes the place of those that were there
  have hsame : b.SameLookups { b with queries := b.queries.map fun q =>
      { q with clause := { q.clause with arguments := .ofList [("after", u.format)] } } } := by
    unfold Block.SameLookups
    rw [List.map_map]
    rfl
  obtain ⟨hcheck, lines, -, hwritten, -⟩ := allowed_and_written hsame hallowed hrender
  refine ⟨_, _, hsame, hwritten, hcheck, fun q hq => ?_⟩
  obtain ⟨p, -, rfl⟩ := List.mem_map.1 hq
  obtain ⟨digits, hformat, -⟩ := Uid.exists_format_eq u
  refine ⟨"after", u.format, ?_, ?_, Uid.parse?_format u⟩
  · rw [List.mem_append, Clause.argumentTexts_eq]
    exact Or.inr (List.mem_singleton.2 rfl)
  · rw [hformat]
    exact ⟨digits, rfl⟩

/-- The path from the node 2 to the node 3, as the requester 1 may ask for it. -/
def shortestPath : Block where
  queries := [{
    clause := {
      aliasName := "shortest", call := some lookupCall, ids := [1],
      arguments := .ofList [("from", "0x02"), ("to", "0x03")] }
    children := [{ clause := { attr := "friend" } }] }]

/-- The lines of this block. -/
def shortestPathLines : List String :=
  ["\x7b", "    shortest(func: uid(0x01), from: 0x02, to: 0x03) \x7b", "        friend", "    \x7d",
    "\x7d"]

/-- Any store is asked for the path of two foreign nodes, and without a proof for either. -/
theorem shortestPath_unchecked :
    (∀ store log, allows store log shortestPath.queries 1 .empty = ⟨.ok true, log⟩) ∧
      shortestPath.render = .ok (join "\n" shortestPathLines) ∧
      ∃ q ∈ shortestPath.queries, ∀ u ∈ [(2 : Uid), 3],
        NamesBeside q u ∧ u ≠ 1 ∧ ∀ store, ¬ Confirmed store .empty u := by
  have hrender : shortestPath.render = .ok (normalize (join "\n" shortestPathLines)) := rfl
  have hlayout : normalize (join "\n" shortestPathLines) = join "\n" shortestPathLines := by
    decide +kernel
  refine ⟨fun store log => rfl, hrender.trans (congrArg Except.ok hlayout), _,
    List.mem_singleton.2 rfl, fun u hu => ⟨?_, ?_, ?_⟩⟩
  · rcases List.mem_cons.1 hu with rfl | hu
    · exact ⟨"from", "0x02", by decide, by decide, rfl⟩
    · obtain rfl := List.mem_singleton.1 hu
      exact ⟨"to", "0x03", by decide, by decide, rfl⟩
  · rintro rfl
    exact absurd hu (by decide)
  · -- there is no proof at all
    rintro store ⟨past, text, body, ⟨p, hfind, -⟩, -⟩
    cases (show (none : Option Query) = some p from hfind)

end Authorization

end Dql
