import Dql.Proofs.Render.LookupBlock
import Dql.Proofs.Request.Calls

/-!
# Which node a proof starts from in the text that the store sees

A proof passes the check if it is a lookup of the requester's own node, but what the
store is asked is its text, and this is not read back. `Pinned` says of a text what
the check wants of the proof: it opens one lookup, and that is of the requester's node.

Not every proof that passes has such a text. Names, aliases, the arguments of a node
and whatever else is written without quotes may hold the words of another lookup
(`smuggled_lookup_asked`). How far this goes can be said exactly: for a proof whose
unquoted strings close the literals they open, the text is pinned if and only if none
of these strings opens a lookup (`pinned_iff`), and this holds of every text that the
check asks the store (`asked_pinned_iff`).
-/

namespace Dql

open Text

/-! ## What stands at the head of a text -/

namespace Uid

/-- There are no blanks in an identifier. -/
theorem any_isBlank_format (u : Uid) : u.format.toList.any isBlank = false := by
  have hall : characters.any isBlank = false := by decide
  exact List.any_eq_false.2 fun c hc => List.any_eq_false.1 hall c (mem_format hc)

end Uid

namespace Authorization

/-- How a text looks up a node. -/
def lookupText (u : Uid) : String := "func: uid(" ++ u.format ++ ")"

/-- A text looks up a node at a place outside of literals. -/
def LooksUp (u : Uid) (text : String) : Prop :=
  ∃ pre post, text.toList = pre ++ ((lookupText u).toList ++ post) ∧
    Place.after .outside pre = .outside

/-- The text opens exactly one lookup, and that is of the requester's node. -/
def Pinned (identity : Uid) (text : String) : Prop :=
  lookups text = 1 ∧ LooksUp identity text

namespace LooksUp

variable {u : Uid} {s t : String}

theorem behind (h : LooksUp u t) (hs : ClosesLiterals s) : LooksUp u (s ++ t) := by
  obtain ⟨pre, post, ht, hpre⟩ := h
  refine ⟨s.toList ++ pre, post, ?_, ?_⟩
  · rw [String.toList_append, ht, List.append_assoc]
  · rw [Place.after_append, show Place.after .outside s.toList = .outside from hs, hpre]

theorem before (h : LooksUp u s) (t : String) : LooksUp u (s ++ t) := by
  obtain ⟨pre, post, hs, hpre⟩ := h
  refine ⟨pre, post ++ t.toList, ?_, hpre⟩
  rw [String.toList_append, hs, List.append_assoc, List.append_assoc]

theorem self (u : Uid) : LooksUp u (lookupText u) :=
  ⟨[], [], by simp, rfl⟩

/-- The texts of a list are found in what they are joined to. -/
theorem join_cons {sep : String} (h : LooksUp u s) (ss : List String) :
    LooksUp u (join sep (s :: ss)) := by
  cases ss with
  | nil => exact h
  | cons t ss =>
    rw [join_cons_cons, String.append_assoc]
    exact h.before _

/-- Layout leaves a lookup as it is: the only blank in it is one space between words. -/
theorem normalize {text : String} (h : LooksUp u text) : LooksUp u (Text.normalize text) := by
  obtain ⟨pre, post, htext, hpre⟩ := h
  -- two words with one space between: layout keeps each of the three
  have hlookup : (lookupText u).toList ++ post
      = 'f' :: (['u', 'n', 'c', ':'] ++
          (' ' :: 'u' :: (['i', 'd', '('] ++ u.format.toList ++ [')'] ++ post))) := by
    unfold lookupText
    rw [String.toList_append, String.toList_append]
    simp
  have hspaced := respaced_normalizeChars text.toList
  rw [htext, hlookup] at hspaced
  obtain ⟨pre', es, hds, hes, hafter⟩ := hspaced.split (by decide) (p := .outside) (by simp)
  obtain ⟨es₁, rfl, hes₁⟩ := hes.word (by simp) (by decide)
  obtain ⟨es₂, rfl, hes₂⟩ := hes₁.space (by decide)
  have hword : ('u' :: (['i', 'd', '('] ++ u.format.toList ++ [')'])).any isBlank = false := by
    rw [List.any_cons, List.any_append, List.any_append, Uid.any_isBlank_format]
    decide
  rw [← List.cons_append] at hes₂
  obtain ⟨es₃, rfl, -⟩ := hes₂.word (by simp) hword
  refine ⟨pre', es₃, ?_, hafter.trans hpre⟩
  unfold Text.normalize
  rw [String.toList_ofList, htext, hlookup, hds]
  unfold lookupText
  rw [String.toList_append, String.toList_append]
  simp

end LooksUp

/-! ## The text of a proof that passes -/

section Proof

variable {identity : Uid} {p : Query} {text : String}

/-- The call of a lookup, as the root writes it. -/
theorem functionText_of_isLookup (hlookup : IsLookup p) (hids : p.clause.ids = [identity]) :
    p.clause.functionText { name := "uid" } = .ok ("uid(" ++ identity.format ++ ")") := by
  rw [Clause.functionText_lookup hlookup.2, hids]
  rfl

/-- What the line of a proof looks up, its text looks up. -/
theorem exists_rootLine_of_render (hrender : Block.render { queries := [p] } = .ok text) :
    ∃ line hasChildren, p.clause.rootLine 1 hasChildren = .ok line ∧
      ∀ u, LooksUp u line → LooksUp u text := by
  obtain ⟨lines, hlines, rfl⟩ := Block.exists_render_eq hrender
  rw [Block.lines_eq] at hlines
  obtain ⟨roots, hroots, rfl⟩ := exists_of_map_eq_ok hlines
  rw [Query.allRootLines_cons] at hroots
  obtain ⟨first, hfirst, hroots⟩ := exists_of_bind_eq_ok hroots
  obtain ⟨more, hmore, hroots⟩ := exists_of_bind_eq_ok hroots
  obtain rfl := Except.ok.inj hroots
  rw [Query.rootLines_eq] at hfirst
  obtain ⟨line, hline, hfirst⟩ := exists_of_bind_eq_ok hfirst
  obtain ⟨below, hbelow, hfirst⟩ := exists_of_bind_eq_ok hfirst
  obtain rfl := Except.ok.inj hfirst
  refine ⟨line, _, hline, fun u hu => LooksUp.normalize ?_⟩
  have hheader : ClosesLiterals (Block.header { queries := [p] } ++ "\n") := by
    show ClosesLiterals ("\x7b" ++ "\n")
    decide
  exact (hu.join_cons _).behind hheader

/-- A proof that passes looks up the requester's node, unless what stands in front of
that has opened a literal. -/
theorem looksUp_of_render (hlookup : IsLookup p) (hids : p.clause.ids = [identity])
    (hrender : Block.render { queries := [p] } = .ok text)
    (hclosed : ∀ s ∈ p.unquoted, ClosesLiterals s) : LooksUp identity text := by
  obtain ⟨line, _, hline, htext⟩ := exists_rootLine_of_render hrender
  refine htext identity ?_
  obtain ⟨function, directives, hfunction, -, rfl⟩ := Clause.exists_rootLine_eq hline
  -- what stands in front of the call is fixed text and two of the unquoted strings
  have hhead : ClosesLiterals
      (indent 1 ++ p.clause.bindingText ++ p.clause.resultName ++ "(") := by
    obtain ⟨hbinding, hend⟩ := Clause.tallies_indentedBinding 1 p.clause
    have hopen := (hbinding.leading (.self p.clause.resultName) hend).before separates_open.2.2
    refine (hopen fun s hs => hclosed s ?_).1
    unfold Query.unquoted Clause.unquotedRootLine
    rcases List.mem_cons.1 hs with rfl | hs
    · simp
    · rw [List.mem_singleton.1 hs]
      simp
  have hcall : LooksUp identity (join ", " (function ++ p.clause.orderTexts ++
      p.clause.argumentTexts)) := by
    rcases hfunction with ⟨hnone, -⟩ | ⟨call, inside, hsome, hinside, rfl⟩
    · rw [hlookup.1] at hnone
      simp at hnone
    · obtain rfl := Option.some.inj (hlookup.1.symm.trans hsome)
      obtain rfl := Except.ok.inj ((functionText_of_isLookup hlookup hids).symm.trans hinside)
      have hwritten : "func: " ++ ("uid(" ++ identity.format ++ ")") = lookupText identity := by
        unfold lookupText
        rw [← String.append_assoc, ← String.append_assoc]
        rfl
      rw [hwritten]
      exact (LooksUp.self identity).join_cons _
  exact (((hcall.behind hhead).before ")").before directives).before " \x7b"

/-- A lookup that stands in the name of a proof's results stands in its text. -/
theorem looksUp_of_resultName {u : Uid} (h : LooksUp u p.clause.resultName)
    (hrender : Block.render { queries := [p] } = .ok text)
    (hclosed : ClosesLiterals p.clause.variableName) : LooksUp u text := by
  obtain ⟨line, _, hline, htext⟩ := exists_rootLine_of_render hrender
  refine htext u ?_
  obtain ⟨function, directives, -, -, rfl⟩ := Clause.exists_rootLine_eq hline
  have hhead := (Clause.tallies_indentedBinding 1 p.clause).1 (by simpa using hclosed)
  exact (((((h.behind hhead.1).before "(").before _).before ")").before directives).before " \x7b"

theorem lookups_of_render (hlookup : IsLookup p)
    (hrender : Block.render { queries := [p] } = .ok text)
    (hclosed : ∀ s ∈ p.unquoted, ClosesLiterals s) :
    lookups text = 1 + lookupsIn p.unquoted := by
  -- the proof stands alone in a block without a name and without variables
  have hunquoted : Block.unquoted { queries := [p] } = "" :: p.unquoted := by
    show "" :: ([] ++ [p].flatMap Query.unquoted) = _
    simp
  have hroots : [p].filter (fun q => q.clause.call.isSome) = [p] := by
    simp [hlookup.1]
  have hcount := Block.lookups_render hrender (by
    rw [hunquoted, List.forall_mem_cons]
    exact ⟨by decide, hclosed⟩)
  rw [hunquoted, hroots] at hcount
  rw [hcount, lookupsIn, show lookups "" = 0 by decide]
  simp

/-- **When the text of a proof that passes is pinned.** If what it writes without quotes
closes its literals, exactly if none of it opens a lookup. -/
theorem pinned_iff (hlookup : IsLookup p) (hids : p.clause.ids = [identity])
    (hrender : Block.render { queries := [p] } = .ok text)
    (hclosed : ∀ s ∈ p.unquoted, ClosesLiterals s) :
    Pinned identity text ↔ ∀ s ∈ p.unquoted, lookups s = 0 := by
  have hcount := lookups_of_render hlookup hrender hclosed
  rw [← lookupsIn_eq_zero_iff]
  constructor
  · rintro ⟨hone, -⟩
    omega
  · intro hnone
    exact ⟨by omega, looksUp_of_render hlookup hids hrender hclosed⟩

end Proof

/-! ## What the check asks the store -/

/-- Every text that the check asks the store is that of a proof that looks up the
requester's node. **It is pinned exactly if none of the strings that the proof writes
without quotes opens a lookup**, where these strings close their literals. -/
theorem asked_pinned_iff (store : Store) (log : Log) (queries : List Query) (identity : Uid)
    (proofs : Table Uid Query) :
    ∃ texts, (allows store log queries identity proofs).log = log.asking texts ∧
      ∀ text ∈ texts, ∃ u p, u ∈ foreignIds identity queries ∧ proofs.find? u = some p ∧
        isRootedAt identity p = true ∧ Block.render { queries := [p] } = .ok text ∧
        ((∀ s ∈ p.unquoted, ClosesLiterals s) →
          (Pinned identity text ↔ ∀ s ∈ p.unquoted, lookups s = 0)) := by
  by_cases hadm : Admissible identity proofs queries
  · obtain ⟨texts, ⟨hlen, hwritten⟩, hlog⟩ :=
      exists_allows_log_eq store log queries identity proofs
    refine ⟨texts, hlog, fun text ht => ?_⟩
    -- the text at a place is that of the proof for the identifier at this place
    obtain ⟨i, hi, hget⟩ := List.mem_iff_getElem.1 ht
    have hu : i < (foreignIds identity queries).length := by omega
    obtain ⟨p, hfind, hrender⟩ := hwritten i (foreignIds identity queries)[i] text
      (List.getElem?_eq_getElem hu) (by rw [List.getElem?_eq_getElem hi, hget])
    have hmem : (foreignIds identity queries)[i] ∈ foreignIds identity queries :=
      List.getElem_mem hu
    obtain ⟨p', hfind', hlookup, hids⟩ := hadm.rooted _ hmem
    obtain rfl := Option.some.inj (hfind.symm.trans hfind')
    exact ⟨_, p, hmem, hfind, isRootedAt_iff.2 ⟨hlookup, hids⟩, hrender,
      pinned_iff hlookup hids hrender⟩
  · rw [allows_of_not_admissible store log hadm]
    exact ⟨[], (Log.asking_nil log).symm, fun text ht => absurd ht List.not_mem_nil⟩

/-! ## A lookup in an alias -/

/-- A proof of the requester 1 for the node 2: it looks up the node 1, under an alias
that holds a lookup of the node 2. -/
def smuggling : Query :=
  { clause := { ids := [1], aliasName := "proof(func: uid(0x02)) \x7b proof: uid \x7d y",
                call := some lookupCall } }

/-- A request for the node 2. -/
def wanting : List Query :=
  [{ clause := { ids := [2], aliasName := "q", call := some lookupCall } }]

/-- The text of a proof that passes looks up another node than the requester's, and
whatever the store is, it is asked this text. -/
theorem smuggled_lookup_asked :
    ∃ text, (∀ store log,
        (allows store log wanting 1 (.ofList [(2, smuggling)])).log = log.asking [text]) ∧
      LooksUp 2 text ∧ lookups text = 2 ∧ ¬ Pinned 1 text := by
  have hlookup : IsLookup smuggling := ⟨rfl, rfl⟩
  obtain ⟨text, hrender⟩ : ∃ text, Block.render { queries := [smuggling] } = .ok text := ⟨_, rfl⟩
  have hcount : lookups text = 2 := by
    rw [lookups_of_render hlookup hrender (by decide)]
    decide
  refine ⟨text, fun store log => ?_, ?_, hcount, fun hpinned => ?_⟩
  · have hinquiry : inquiryFor smuggling = .ok ⟨text, .empty⟩ := by
      unfold inquiryFor
      rw [hrender]
      rfl
    show (confirmAll store log [(2, smuggling)]).log = log.asking [text]
    rw [confirmAll, hinquiry]
    dsimp only
    cases store log ⟨text, .empty⟩ with
    | error e => rfl
    | ok body =>
      dsimp only
      cases confirms 2 body with
      | error fault => rfl
      | ok yes => cases yes <;> rfl
  · have hname : LooksUp 2 smuggling.clause.resultName :=
      ⟨"proof(".toList, ") \x7b proof: uid \x7d y".toList, by decide, by decide⟩
    exact looksUp_of_resultName hname hrender (by decide)
  · have hone := hpinned.1
    omega

end Authorization

end Dql
