import Dql.Proofs.Text.Lookup
import Dql.Proofs.Text.Normalization

/-!
# Literals are found as they were written

`HasLiterals cs vs` says of a text that it is put together from single characters that are
neither quotes nor slashes, and from the quoted literals of `vs` in this order. A reader who
scans such a text finds these literals and no others (`HasLiterals.quoted_scan`): the inside
of a literal never closes it (`splitLiteral_escape`), and without a slash outside of literals
no pattern starts that could swallow a quote.

Layout keeps the property (`HasLiterals.normalizeChars`). Both rest on one step, what the
first token of such a text can be and what it leaves (`HasLiterals.next`); beside it layout
needs that a literal spans no lines (`HasLiterals.cut`).

At the end stand the combinators for texts that are put together from others: `Quotes s vs`
for a text, `QuotesAll ss vs` for a list of texts, `Unmarked s` for a text without literals.
-/

namespace Dql.Text

/-! ## Reading one literal -/

/-- The inside of a literal does not close it. -/
theorem splitLiteral_escape (cs rest : List Char) :
    splitLiteral '"' (escape cs ++ '"' :: rest) = some (escape cs ++ ['"'], rest) := by
  induction cs with
  | nil => rfl
  | cons c cs ih =>
    rw [escape, List.flatMap_cons, List.append_assoc, ← escape]
    rcases escapeChar_cases c with ⟨d, hd⟩ | ⟨hc, hslash, hquote⟩
    · -- the backslash takes what it escapes along
      rw [hd]
      show splitLiteral '"' ('\\' :: d :: (escape cs ++ '"' :: rest)) = _
      rw [splitLiteral, ih]
      rfl
    · rw [hc]
      show splitLiteral '"' (c :: (escape cs ++ '"' :: rest)) = _
      rw [splitLiteral_cons hslash, if_neg hquote, ih]
      rfl

theorem not_mem_escapeChar (c : Char) : '\n' ∉ escapeChar c ∧ '\r' ∉ escapeChar c := by
  unfold escapeChar
  split
  · decide
  · split
    · decide
    · split
      · decide
      next hfeed =>
        split
        · decide
        next hreturn =>
          split
          · decide
          · exact ⟨fun h => hfeed (List.mem_singleton.1 h).symm,
              fun h => hreturn (List.mem_singleton.1 h).symm⟩

/-- A literal does not span lines. -/
theorem not_mem_quote {c : Char} (hc : c = '\n' ∨ c = '\r') (v : String) :
    c ∉ '"' :: (escape v.toList ++ ['"']) := by
  have hquote : c ≠ '"' := by
    rcases hc with rfl | rfl <;> decide
  have hchar : ∀ d, c ∉ escapeChar d := by
    intro d
    rcases hc with rfl | rfl
    · exact (not_mem_escapeChar d).1
    · exact (not_mem_escapeChar d).2
  intro hmem
  rcases List.mem_cons.1 hmem with h | h
  · exact hquote h
  · rcases List.mem_append.1 h with h | h
    · obtain ⟨d, -, hd⟩ := List.mem_flatMap.1 h
      exact hchar d hd
    · exact hquote (List.mem_singleton.1 h)

/-- The text that a quoted literal stands for. -/
def unquote (s : String) : String := String.ofList (unescape (s.toList.drop 1).dropLast)

/-- **A literal is read back.** -/
theorem unquote_quote (v : String) : unquote (quote v) = v := by
  unfold unquote
  rw [toList_quote, List.drop_one, List.tail_cons, List.dropLast_concat, unescape_escape,
    String.ofList_toList]

/-- A literal is known from the text that it starts. -/
theorem quote_cut {v w : String} {r s : List Char}
    (h : (quote v).toList ++ r = (quote w).toList ++ s) : v = w ∧ r = s := by
  rw [toList_quote, toList_quote, List.cons_append, List.cons_append, List.append_assoc,
    List.append_assoc] at h
  have hsplit := congrArg (splitLiteral '"') (List.cons.inj h).2
  rw [List.singleton_append, List.singleton_append, splitLiteral_escape,
    splitLiteral_escape] at hsplit
  obtain ⟨hinside, rfl⟩ := Prod.mk.inj (Option.some.inj hsplit)
  have hescape := congrArg unescape (List.append_cancel_right hinside)
  rw [unescape_escape, unescape_escape] at hescape
  exact ⟨String.toList_inj.1 hescape, rfl⟩

/-! ## Texts with literals in them -/

/-- A text that is put together from characters other than quotes and slashes, and from the
quoted literals of a list, in the order of the list. -/
inductive HasLiterals : List Char → List String → Prop where
  | nil : HasLiterals [] []
  | char {c : Char} {cs : List Char} {vs : List String} (hquote : c ≠ '"') (hslash : c ≠ '/')
      (h : HasLiterals cs vs) : HasLiterals (c :: cs) vs
  | literal (v : String) {cs : List Char} {vs : List String} (h : HasLiterals cs vs) :
      HasLiterals ('"' :: (escape v.toList ++ '"' :: cs)) (v :: vs)

namespace HasLiterals

variable {cs ds : List Char} {vs ws : List String}

theorem eq_nil (h : HasLiterals [] vs) : vs = [] := by
  cases h
  rfl

theorem append (hs : HasLiterals cs vs) (ht : HasLiterals ds ws) :
    HasLiterals (cs ++ ds) (vs ++ ws) := by
  induction hs with
  | nil => exact ht
  | char hquote hslash _ ih => exact .char hquote hslash ih
  | literal v _ ih =>
    have hlit := HasLiterals.literal v ih
    simpa only [List.cons_append, List.append_assoc] using hlit

/-- A text behind others that hold neither quotes nor slashes. -/
theorem behind {xs : List Char} (h : HasLiterals cs vs) (hxs : ∀ c ∈ xs, c ≠ '"' ∧ c ≠ '/') :
    HasLiterals (xs ++ cs) vs := by
  induction xs with
  | nil => exact h
  | cons x xs ih =>
    rw [List.forall_mem_cons] at hxs
    exact .char hxs.1.1 hxs.1.2 (ih hxs.2)

/-- Characters that are dropped in front take no literal along, unless they may be quotes. -/
theorem dropWhile {q : Char → Bool} (hq : ¬ q '"' = true) (h : HasLiterals cs vs) :
    HasLiterals (cs.dropWhile q) vs := by
  induction h with
  | nil => exact .nil
  | @char c cs vs hquote hslash h ih =>
    by_cases hc : q c = true
    · rw [List.dropWhile_cons_of_pos hc]
      exact ih
    · rw [List.dropWhile_cons_of_neg hc]
      exact .char hquote hslash h
  | literal v h _ =>
    rw [List.dropWhile_cons_of_neg hq]
    exact .literal v h

/-- There are no literals in blanks. -/
theorem eq_nil_of_blank (h : HasLiterals cs vs) (hblank : cs.all isBlank = true) : vs = [] := by
  induction h with
  | nil => rfl
  | char _ _ _ ih =>
    rw [List.all_cons, Bool.and_eq_true] at hblank
    exact ih hblank.2
  | literal =>
    rw [List.all_cons, Bool.and_eq_true] at hblank
    exact absurd hblank.1 (by decide)

/-- A text is cut at a line's end without cutting a literal. -/
theorem cut {c : Char} (hc : c = '\n' ∨ c = '\r') (h : HasLiterals (cs ++ c :: ds) vs) :
    ∃ us ws, vs = us ++ ws ∧ HasLiterals cs us ∧ HasLiterals ds ws := by
  generalize htext : cs ++ c :: ds = text at h
  induction h generalizing cs with
  | nil => exact absurd htext (by simp)
  | @char d text vs hquote hslash h ih =>
    cases cs with
    | nil =>
      obtain ⟨-, rfl⟩ := List.cons.inj htext
      exact ⟨[], vs, rfl, .nil, h⟩
    | cons x cs =>
      obtain ⟨rfl, hrest⟩ := List.cons.inj htext
      obtain ⟨us, ws, rfl, hus, hws⟩ := ih hrest
      exact ⟨us, ws, rfl, .char hquote hslash hus, hws⟩
  | @literal v text vs h ih =>
    have hlit : '"' :: (escape v.toList ++ '"' :: text)
        = '"' :: (escape v.toList ++ ['"']) ++ text := by simp
    rw [hlit, List.append_eq_append_iff] at htext
    rcases htext with ⟨as, hinside, has⟩ | ⟨as, rfl, htext⟩
    · -- the cut would be inside of the literal, which has no such character
      cases as with
      | nil =>
        have hrest : [] ++ c :: ds = text := has
        obtain ⟨us, ws, rfl, hus, hws⟩ := ih hrest
        refine ⟨v :: us, ws, rfl, ?_, hws⟩
        rw [List.append_nil] at hinside
        rw [← hinside]
        exact .literal v hus
      | cons a as =>
        obtain ⟨rfl, -⟩ := List.cons.inj has
        refine absurd ?_ (not_mem_quote hc v)
        rw [hinside]
        simp
    · obtain ⟨us, ws, rfl, hus, hws⟩ := ih htext.symm
      refine ⟨v :: us, ws, rfl, ?_, hws⟩
      have hfront := HasLiterals.literal v hus
      simpa only [List.cons_append, List.append_assoc, List.nil_append] using hfront

end HasLiterals

/-! ## Scanning -/

namespace Token

/-- The characters of a quoted literal, with its quotes. -/
def literal? : Token → Option String
  | quoted body => some (String.ofList ('"' :: body))
  | _ => none

end Token

/-- The double-quoted tokens of a text, from left to right. -/
def quotedTokens (s : String) : List String := (Token.scan s.toList).filterMap Token.literal?

namespace HasLiterals

variable {cs : List Char} {vs : List String}

/-- **What the first token can be**: the first literal, as it was written, or a token that
is no literal, which is no pattern either. What is left has the literals that are left. -/
theorem next {c : Char} {rest more : List Char} {t : Token} (h : HasLiterals (c :: rest) vs)
    (hfirst : Token.First c rest t more) :
    (∃ v ws, t = .quoted (escape v.toList ++ ['"']) ∧ vs = v :: ws ∧ HasLiterals more ws) ∨
      (t.literal? = none ∧ (∀ d ∈ t.squeeze.text, d ≠ '"' ∧ d ≠ '/') ∧ HasLiterals more vs) := by
  cases h with
  | @literal v text ws h =>
    -- only one token starts here
    have hlit := splitLiteral_escape v.toList text
    have htoken := (Token.First.quoted hlit).next_eq.symm.trans hfirst.next_eq
    obtain ⟨rfl, rfl⟩ := Prod.mk.inj htoken
    exact Or.inl ⟨v, ws, rfl, rfl, h⟩
  | char hquote hslash h =>
    have hchar : ∀ d ∈ [c], d ≠ '"' ∧ d ≠ '/' := by
      intro d hd
      rw [List.mem_singleton.1 hd]
      exact ⟨hquote, hslash⟩
    cases hfirst with
    | quoted => exact absurd rfl hquote
    | quote => exact absurd rfl hquote
    | pattern _ hopen =>
      -- the slash would be outside of the literals
      have hrest := h.dropWhile (q := isBlank) (by decide)
      rw [hopen] at hrest
      cases hrest with
      | char _ hno _ => exact absurd rfl hno
    | slash => exact Or.inr ⟨rfl, hchar, h⟩
    | opener => exact Or.inr ⟨rfl, hchar, h⟩
    | blanks =>
      refine Or.inr ⟨rfl, ?_, h.dropWhile (by decide)⟩
      intro d hd
      rw [List.mem_singleton.1 hd]
      decide
    | char => exact Or.inr ⟨rfl, hchar, h⟩

/-- **Scanning finds the literals as they were written.** -/
theorem quoted_scan (h : HasLiterals cs vs) :
    (Token.scan cs).filterMap Token.literal? = vs.map quote := by
  induction cs using Token.scan.induct generalizing vs with
  | case1 =>
    rw [h.eq_nil, Token.scan]
    rfl
  | case2 c rest ih =>
    rw [Token.scan]
    rcases h.next (Token.first_next c rest) with ⟨v, ws, htoken, rfl, hmore⟩ | ⟨hnone, -, hmore⟩
    · have hquote : (Token.quoted (escape v.toList ++ ['"'])).literal? = some (quote v) := by
        show some (String.ofList ('"' :: (escape v.toList ++ ['"']))) = _
        rw [← toList_quote, String.ofList_toList]
      rw [htoken, List.filterMap_cons_some hquote, ih hmore, List.map_cons]
    · rw [List.filterMap_cons_none hnone, ih hmore]

/-! ## Layout -/

/-- Squeezing copies the literals. -/
theorem squeeze (h : HasLiterals cs vs) : HasLiterals (squeeze cs) vs := by
  induction cs using Token.scan.induct generalizing vs with
  | case1 =>
    rw [squeeze_nil]
    exact h
  | case2 c rest ih =>
    rw [squeeze_cons]
    rcases h.next (Token.first_next c rest) with ⟨v, ws, htoken, rfl, hmore⟩ | ⟨-, hplain, hmore⟩
    · have hlit := HasLiterals.literal v (ih hmore)
      rw [htoken]
      show HasLiterals ('"' :: (escape v.toList ++ ['"']) ++ Text.squeeze _) _
      simpa only [List.cons_append, List.append_assoc, List.nil_append] using hlit
    · exact (ih hmore).behind hplain

theorem normalizeLine (h : HasLiterals cs vs) : HasLiterals (normalizeLine cs) vs := by
  have hindent : ∀ c ∈ cs.takeWhile isIndent, c ≠ '"' ∧ c ≠ '/' := by
    intro c hc
    have hblank : isIndent c = true := List.all_eq_true.1 List.all_takeWhile c hc
    constructor
    · rintro rfl
      exact absurd hblank (by decide)
    · rintro rfl
      exact absurd hblank (by decide)
  exact (h.dropWhile (q := isIndent) (by decide)).squeeze.behind hindent

/-- What is in a text is in its first line and in what follows the line's end. -/
theorem cut_line {line ending rest : List Char} (hend : IsLineEnd ending rest)
    (h : HasLiterals (line ++ (ending ++ rest)) vs) :
    ∃ us ws, vs = us ++ ws ∧ HasLiterals line us ∧ HasLiterals rest ws := by
  rcases hend with rfl | rfl | ⟨rfl, rfl⟩
  · exact h.cut (Or.inl rfl)
  · obtain ⟨us, ws, rfl, hus, hws⟩ := h.cut (Or.inr rfl)
    cases hws with
    | char _ _ hws => exact ⟨us, _, rfl, hus, hws⟩
  · rw [List.append_nil, List.append_nil] at h
    exact ⟨vs, [], (List.append_nil vs).symm, h, .nil⟩

/-- **Layout copies the literals**: they span no lines, and none is in a line that is
dropped. -/
theorem normalizeChars (h : HasLiterals cs vs) : HasLiterals (normalizeChars cs) vs := by
  rw [normalizeChars_eq]
  induction cs using lines_induction generalizing vs with
  | nil =>
    rw [h.eq_nil]
    exact .nil
  | cons line ending rest hend hlines ih =>
    obtain ⟨us, ws, rfl, hus, hws⟩ := h.cut_line hend
    cases hblank : line.all isBlank with
    | true =>
      rw [normalLines_of_blank hlines hblank, hus.eq_nil_of_blank hblank, List.nil_append]
      exact ih hws
    | false =>
      rw [normalLines_of_not_blank hlines hblank]
      have hrest := ih hws
      by_cases hmore : normalLines rest = []
      · -- nothing follows, so there is no literal in it
        rw [hmore] at hrest ⊢
        rw [hrest.eq_nil, List.append_nil]
        exact hus.normalizeLine
      · rw [unlines_cons hmore]
        exact hus.normalizeLine.append (.char (by decide) (by decide) hrest)

end HasLiterals

/-! ## Texts put together -/

/-- Characters that neither open a literal nor start or end a pattern. -/
def isUnmarked (c : Char) : Bool := c != '"' && c != '/'

/-- A text without quotes and slashes. -/
def Unmarked (s : String) : Prop := s.toList.all isUnmarked = true

instance (s : String) : Decidable (Unmarked s) := inferInstanceAs (Decidable (_ = true))

/-- A text has the literals of a list, in this order. -/
def Quotes (s : String) (vs : List String) : Prop := HasLiterals s.toList vs

namespace Unmarked

variable {s t : String}

theorem iff_forall : Unmarked s ↔ ∀ c ∈ s.toList, c ≠ '"' ∧ c ≠ '/' := by
  unfold Unmarked isUnmarked
  simp only [List.all_eq_true, Bool.and_eq_true, bne_iff_ne]

theorem append_iff : Unmarked (s ++ t) ↔ Unmarked s ∧ Unmarked t := by
  unfold Unmarked
  rw [String.toList_append, List.all_append, Bool.and_eq_true]

theorem append (hs : Unmarked s) (ht : Unmarked t) : Unmarked (s ++ t) := append_iff.2 ⟨hs, ht⟩

/-- A text with two around it. -/
theorem within {u : String} (ht : Unmarked t) (hs : Unmarked s) (hu : Unmarked u) :
    Unmarked (s ++ t ++ u) := (hs.append ht).append hu

theorem join {sep : String} (hsep : Unmarked sep) {ss : List String} (h : ∀ s ∈ ss, Unmarked s) :
    Unmarked (join sep ss) := by
  induction ss with
  | nil => exact (by decide : Unmarked "")
  | cons s ss ih =>
    rw [List.forall_mem_cons] at h
    cases ss with
    | nil => exact h.1
    | cons t rest =>
      rw [join_cons_cons]
      exact (h.1.append hsep).append (ih h.2)

end Unmarked

namespace Quotes

variable {s t : String} {vs ws : List String}

theorem unmarked (h : Unmarked s) : Quotes s [] := by
  have hchars := HasLiterals.nil.behind (Unmarked.iff_forall.1 h)
  rwa [List.append_nil] at hchars

theorem literal (v : String) : Quotes (quote v) [v] := by
  unfold Quotes
  rw [toList_quote]
  exact .literal v .nil

theorem append (hs : Quotes s vs) (ht : Quotes t ws) : Quotes (s ++ t) (vs ++ ws) := by
  unfold Quotes
  rw [String.toList_append]
  exact HasLiterals.append hs ht

/-- A text behind one without literals. -/
theorem behind (ht : Quotes t vs) (hs : Unmarked s) : Quotes (s ++ t) vs :=
  (unmarked hs).append ht

/-- A text in front of one without literals. -/
theorem before (hs : Quotes s vs) (ht : Unmarked t) : Quotes (s ++ t) vs := by
  have h := hs.append (unmarked ht)
  rwa [List.append_nil] at h

/-- A text with two around it that have no literals. -/
theorem within {u : String} (ht : Quotes t vs) (hs : Unmarked s) (hu : Unmarked u) :
    Quotes (s ++ t ++ u) vs := (ht.behind hs).before hu

theorem normalize (h : Quotes s vs) : Quotes (normalize s) vs := by
  unfold Quotes Text.normalize
  rw [String.toList_ofList]
  exact h.normalizeChars

/-- **The double-quoted tokens of a text** are its literals, and each is read back. -/
theorem quotedTokens_eq (h : Quotes s vs) :
    quotedTokens s = vs.map quote ∧ (quotedTokens s).map unquote = vs := by
  have htokens : quotedTokens s = vs.map quote := HasLiterals.quoted_scan h
  refine ⟨htokens, ?_⟩
  rw [htokens, List.map_map]
  calc vs.map (unquote ∘ quote) = vs.map id :=
        List.map_congr_left fun v _ => unquote_quote v
    _ = vs := List.map_id vs

end Quotes

/-- The texts of a list have the literals of a list, in this order. -/
inductive QuotesAll : List String → List String → Prop where
  | nil : QuotesAll [] []
  | cons {s : String} {ss vs ws : List String} (h : Quotes s vs) (hs : QuotesAll ss ws) :
      QuotesAll (s :: ss) (vs ++ ws)

namespace QuotesAll

variable {ss ts vs ws : List String}

theorem map {α : Type} {f : α → String} {g : α → List String} (xs : List α)
    (h : ∀ x ∈ xs, Quotes (f x) (g x)) : QuotesAll (xs.map f) (xs.flatMap g) := by
  induction xs with
  | nil => exact .nil
  | cons x xs ih =>
    rw [List.forall_mem_cons] at h
    exact .cons h.1 (ih h.2)

/-- Texts joined by a separator without literals. -/
theorem join {sep : String} (hs : QuotesAll ss vs) (hsep : Unmarked sep) :
    Quotes (Text.join sep ss) vs := by
  induction hs with
  | nil => exact .nil
  | @cons s ss us ws h hs ih =>
    cases hs with
    | nil =>
      rw [List.append_nil]
      exact h
    | cons h' hs' =>
      rw [join_cons_cons]
      exact (h.before hsep).append ih

end QuotesAll

end Dql.Text
