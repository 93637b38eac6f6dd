import Dql.Proofs.Authorization.Confirmation
import Dql.Proofs.Render.LookupPart

/-!
# The identifiers that are checked are those that are looked up

The check of a requester goes through the identifiers on the roots of a block, while the
store reads a text. A root that passes as a plain lookup is written as `uid(…)` over the
identifiers on it, whatever else the root asks for, and reading that list back gives the
same identifiers in the same order (`listed_lookup`).

Two facts carry this. A list that is written with `, ` between its items is taken apart
again if no item holds a comma (`listed_join`), and every identifier is read from the text
that it is written as (`Uid.parse?_format`).
-/

namespace Dql

open Text

/-! ## Lists in a text -/

namespace Text

/-- The parts of a text in front of, between and behind its marks `, `. -/
def splitComma : List Char → List (List Char)
  | [] => [[]]
  | ',' :: ' ' :: rest => [] :: splitComma rest
  | c :: rest => (splitComma rest).modifyHead (c :: ·)

/-- The items of a list as it is written; the empty text is the list without items. -/
def listed (s : String) : List String :=
  if s.isEmpty then [] else (splitComma s.toList).map String.ofList

theorem splitComma_cons {c : Char} (hc : c ≠ ',') (rest : List Char) :
    splitComma (c :: rest) = (splitComma rest).modifyHead (c :: ·) := by
  rw [splitComma]
  intro more hcomma
  exact absurd hcomma hc

/-- A word without commas stays in front of the parts of what follows. -/
theorem splitComma_append {w : List Char} (hw : ',' ∉ w) (rest : List Char) :
    splitComma (w ++ rest) = (splitComma rest).modifyHead (w ++ ·) := by
  induction w with
  | nil =>
    rw [List.nil_append]
    cases splitComma rest with
    | nil => rfl
    | cons part parts => rfl
  | cons c w ih =>
    rw [List.mem_cons, not_or] at hw
    rw [List.cons_append, splitComma_cons (Ne.symm hw.1), ih hw.2, List.modifyHead_modifyHead]
    rfl

theorem splitComma_following (ss : List String) (h : ∀ s ∈ ss, ',' ∉ s.toList) :
    splitComma (following ", " ss) = [] :: ss.map String.toList := by
  induction ss with
  | nil => rfl
  | cons s ss ih =>
    rw [List.forall_mem_cons] at h
    have hmark : (", ").toList = [',', ' '] := rfl
    rw [following_cons, hmark]
    show [] :: splitComma (s.toList ++ following ", " ss) = _
    rw [splitComma_append h.1, ih h.2, List.modifyHead_cons, List.append_nil, List.map_cons]

/-- **A written list is taken apart into its items**, if each has a character and none a comma. -/
theorem listed_join {ss : List String} (h : ∀ s ∈ ss, s ≠ "" ∧ ',' ∉ s.toList) :
    listed (join ", " ss) = ss := by
  cases ss with
  | nil => rfl
  | cons s ss =>
    rw [List.forall_mem_cons] at h
    obtain ⟨⟨hne, hcomma⟩, hrest⟩ := h
    have hchars : s.toList ≠ [] := by
      intro hnil
      exact hne (String.toList_inj.1 hnil)
    have hfilled : (join ", " (s :: ss)).isEmpty = false := by
      rw [Bool.eq_false_iff, ne_eq, String.isEmpty_iff]
      intro hempty
      have hlist := congrArg String.toList hempty
      rw [toList_join_cons] at hlist
      exact hchars (List.append_eq_nil_iff.1 hlist).1
    have hparts : splitComma (join ", " (s :: ss)).toList = s.toList :: ss.map String.toList := by
      rw [toList_join_cons, splitComma_append hcomma,
        splitComma_following ss fun t ht => (hrest t ht).2, List.modifyHead_cons, List.append_nil]
    unfold listed
    rw [hfilled, if_neg (by simp), hparts, List.map_cons, List.map_map, String.ofList_toList]
    refine congrArg (List.cons s) ?_
    calc ss.map (String.ofList ∘ String.toList) = ss.map id :=
          List.map_congr_left fun t _ => String.ofList_toList
      _ = ss := List.map_id ss

end Text

/-! ## Identifiers in a text -/

namespace Uid

/-- An identifier is written without blanks, so there are none to be trimmed. -/
theorem trimBlank_format (u : Uid) : trimBlank u.format.toList = u.format.toList := by
  have hkeep : ∀ cs : List Char, (∀ c ∈ cs, c ∈ u.format.toList) → cs.dropWhile isBlank = cs := by
    intro cs hcs
    cases cs with
    | nil => rfl
    | cons c rest =>
      have hchar := Clause.isIdentifierChar_of_mem_format c (hcs c List.mem_cons_self)
      exact List.dropWhile_cons_of_neg (by simp [not_isBlank_of_isIdentifierChar hchar])
  unfold trimBlank
  rw [hkeep _ fun c hc => hc, hkeep _ fun c hc => List.mem_reverse.1 hc, List.reverse_reverse]

/-- **An identifier is read from its text.** -/
theorem parse?_format (u : Uid) : parse? u.format = .ok u := by
  obtain ⟨digits, hformat, hread⟩ := exists_format_eq u
  have hplus : '+' ∉ digits := by
    intro hmem
    have hchar := Clause.isIdentifierChar_of_mem_format (u := u) '+' (by rw [hformat]; simp [hmem])
    exact absurd hchar (by decide)
  have hsome : digits ≠ [] := by
    rintro rfl
    -- no digits would be the number zero, and zero has two digits
    have hzero : 0 = u.toNat := Except.ok.inj hread
    obtain rfl : 0 = u := UInt64.toNat_inj.1 hzero
    exact absurd hformat (by decide)
  have hnumber : readNumber 16 digits = .ok u.toNat := by
    rw [readNumber_eq_readDigits hsome hplus]
    exact hread
  unfold parse?
  rw [trimBlank_format, hformat]
  show (readNumber 16 digits).map UInt64.ofNat = .ok u
  rw [hnumber]
  exact congrArg Except.ok UInt64.ofNat_toNat

/-- Identifiers that are written as a list are read from it. -/
theorem listed_ids (us : List Uid) :
    (listed (join ", " (us.map format))).map parse? = us.map .ok := by
  have hitems : ∀ s ∈ us.map format, s ≠ "" ∧ ',' ∉ s.toList := by
    intro s hs
    obtain ⟨u, -, rfl⟩ := List.mem_map.1 hs
    refine ⟨Clause.format_ne_empty u, ?_⟩
    intro hcomma
    exact absurd (Clause.isIdentifierChar_of_mem_format _ hcomma) (by decide)
  rw [listed_join hitems, List.map_map]
  refine List.map_congr_left fun u _ => ?_
  rw [Function.comp_apply, parse?_format]

end Uid

namespace Authorization

/-- **The identifiers that are checked are those that are looked up.** The function of a
query that passes as a plain lookup is written over the identifiers on the query and
nothing else, and these are what is read from the list in its brackets. -/
theorem listed_lookup {q : Query} (h : isPlainLookup q = true) :
    ∃ call inside, q.clause.call = some call ∧
      inside = join ", " (q.clause.ids.map Uid.format) ∧
      q.clause.functionText call = .ok ("uid(" ++ inside ++ ")") ∧
      (listed inside).map Uid.parse? = q.clause.ids.map .ok := by
  obtain ⟨hcall, hattr⟩ := isPlainLookup_iff.1 h
  refine ⟨_, _, hcall, rfl, ?_, ?_⟩
  · exact Clause.functionText_lookup hattr
  · exact Uid.listed_ids q.clause.ids

/-- A lookup of four nodes, two of them the same, with much else on it. -/
def busyLookup : Query where
  clause := {
    ids := [7, 0xffffffffffffffff, 0, 7], call := some lookupCall, aliasName := "q",
    langs := ["en"], isCount := true, expand := "all", uses := [⟨"x", .values⟩],
    arguments := .ofList [("first", "0x02")], orders := [{ attr := "0x03" }],
    filter := some { call := some { name := "uid", ids := [9] } } }

theorem listed_lookup_busy :
    isPlainLookup busyLookup = true ∧
      ∃ inside, busyLookup.clause.functionText lookupCall = .ok ("uid(" ++ inside ++ ")") ∧
        inside = "0x07, 0xffffffffffffffff, 0x00, 0x07" ∧
        (listed inside).map Uid.parse? = [.ok 7, .ok 0xffffffffffffffff, .ok 0, .ok 7] := by
  have hplain : isPlainLookup busyLookup = true := by decide
  obtain ⟨call, inside, hcall, hinside, hwritten, hread⟩ := listed_lookup hplain
  obtain rfl : lookupCall = call := Option.some.inj hcall
  refine ⟨hplain, inside, hwritten, ?_, hread⟩
  rw [hinside]
  decide

end Authorization

end Dql
