import Dql.Proofs.Text.Spacing

/-!
# Normal layout is stable

Text in normal layout is left as it is by `normalize` (`normalize_normalize`), whatever
the text was at first: with literals that are never closed, lone backslashes, carriage
returns or blanks beyond ASCII.

What carries the proof is that squeezing a line does not move its tokens: a squeezed line
is scanned into the squeezed tokens of the line (`Token.scan_squeeze`). A literal that was
found is copied, so it is found again. One that was not found, because nothing closes it,
must not be found later: whether a literal is closed (`closes`) depends on the characters
that are no blanks and on the character behind each backslash, and these stay in place
when blanks are squeezed (`Respaced.closes_eq`).

The rest is about lines: no squeezed line is blank, ends in a carriage return or holds a
line feed, so the lines of the new text are the squeezed lines (`lines_unlines`).
-/

namespace Dql.Text

/-! ## Whether a literal is closed -/

/-- Whether a literal is closed in what is left of it; `escaped` if a backslash that
escapes stands in front. -/
def closes (close : Char) : Bool → List Char → Bool
  | _, [] => false
  | true, _ :: rest => closes close false rest
  | false, c :: rest =>
    if c = '\\' then closes close true rest
    else if c = close then true
    else closes close false rest

theorem splitLiteral_cons {close c : Char} (hc : c ≠ '\\') (rest : List Char) :
    splitLiteral close (c :: rest)
      = if c = close then some ([c], rest)
        else (splitLiteral close rest).map fun p => (c :: p.1, p.2) := by
  rw [splitLiteral]
  · intro hlone
    exact absurd hlone hc
  · intro d more hslash
    exact absurd hslash hc

/-- A literal is split off exactly if it is closed. -/
theorem isSome_splitLiteral (close : Char) (cs : List Char) :
    (splitLiteral close cs).isSome = closes close false cs := by
  induction hn : cs.length using Nat.strongRecOn generalizing cs with
  | _ n ih =>
    match cs with
    | [] => rfl
    | c :: rest =>
      by_cases hc : c = '\\'
      · subst hc
        -- a backslash takes the next character along, so two are read at once
        match rest with
        | [] => rfl
        | d :: more =>
          rw [splitLiteral, Option.isSome_map, ih more.length
            (by rw [← hn, List.length_cons, List.length_cons]; omega) more rfl]
          rfl
      · rw [splitLiteral_cons hc, closes, if_neg hc]
        split
        · rfl
        · rw [Option.isSome_map, ih rest.length
            (by rw [← hn, List.length_cons]; omega) rest rfl]

theorem splitLiteral_eq_none_iff {close : Char} {cs : List Char} :
    splitLiteral close cs = none ↔ closes close false cs = false := by
  rw [← isSome_splitLiteral, Option.isSome_eq_false_iff, Option.isNone_iff_eq_none]

/-- What is split off ends where it ends, whatever follows. -/
theorem splitLiteral_append_of_eq_some {close : Char} {cs : List Char}
    {p : List Char × List Char} (h : splitLiteral close cs = some p) (more : List Char) :
    splitLiteral close (p.1 ++ more) = some (p.1, more) := by
  fun_induction splitLiteral close cs generalizing p with
  | case1 => simp at h
  | case2 => simp at h
  | case3 c rest ih =>
    obtain ⟨q, hq, rfl⟩ := Option.map_eq_some_iff.1 h
    show splitLiteral close ('\\' :: c :: (q.1 ++ more)) = _
    rw [splitLiteral, ih hq]
    rfl
  | case4 rest hlone hslash =>
    obtain rfl := Option.some.inj h
    have hc : close ≠ '\\' := by
      rintro rfl
      cases rest with
      | nil => exact hlone rfl rfl
      | cons d more => exact hslash d more rfl rfl
    show splitLiteral close (close :: more) = _
    rw [splitLiteral_cons hc, if_pos rfl]
  | case5 c rest hlone hslash hclose ih =>
    obtain ⟨q, hq, rfl⟩ := Option.map_eq_some_iff.1 h
    have hc : c ≠ '\\' := by
      rintro rfl
      cases rest with
      | nil => exact hlone rfl rfl
      | cons d more => exact hslash d more rfl rfl
    show splitLiteral close (c :: (q.1 ++ more)) = _
    rw [splitLiteral_cons hc, if_neg hclose, ih hq]
    rfl

/-- What is split off ends with the character that closes it. -/
theorem getLast?_splitLiteral {close : Char} {cs : List Char} {p : List Char × List Char}
    (h : splitLiteral close cs = some p) : p.1.getLast? = some close := by
  fun_induction splitLiteral close cs generalizing p with
  | case1 => simp at h
  | case2 => simp at h
  | case3 c rest ih =>
    obtain ⟨q, hq, rfl⟩ := Option.map_eq_some_iff.1 h
    simp [List.getLast?_cons, ih hq]
  | case4 rest =>
    obtain rfl := Option.some.inj h
    rfl
  | case5 c rest _ _ _ ih =>
    obtain ⟨q, hq, rfl⟩ := Option.map_eq_some_iff.1 h
    simp [List.getLast?_cons, ih hq]

theorem ne_of_isBlank_of_not {c d : Char} (hc : isBlank c = true) (hd : isBlank d = false) :
    c ≠ d := by
  rintro rfl
  rw [hc] at hd
  exact absurd hd (by decide)

namespace Respaced

/-- A blank neither closes a literal nor escapes. -/
theorem closes_blank {close c : Char} (hclose : isBlank close = false) (hc : isBlank c = true)
    (escaped : Bool) (rest : List Char) :
    closes close escaped (c :: rest) = closes close false rest := by
  cases escaped with
  | true => rfl
  | false =>
    rw [closes, if_neg (ne_of_isBlank_of_not hc (by decide)),
      if_neg (ne_of_isBlank_of_not hc hclose)]

/-- A literal is closed exactly if it was closed before the text was respaced. -/
theorem closes_eq {close : Char} (hclose : isBlank close = false) {held : Bool}
    {cs ds : List Char} (h : Respaced held cs ds) {escaped : Bool}
    (he : held = true → escaped = false) :
    closes close escaped cs = closes close escaped ds := by
  induction h generalizing escaped with
  | @tail held run hrun =>
    clear he
    induction run generalizing escaped with
    | nil => rfl
    | cons c run ih =>
      rw [List.forall_mem_cons] at hrun
      rw [closes_blank hclose hrun.1, ih hrun.2]
      cases escaped <;> rfl
  | @char held c cs ds _ _ ih =>
    cases escaped with
    | true => exact ih (by simp)
    | false => rw [closes, closes, ih (by simp), ih (by simp)]
  | blank hc hd _ _ ih =>
    rw [closes_blank hclose hc, closes_blank hclose hd, ih fun _ => rfl]
  | drop hc _ ih =>
    -- the blank in front was kept, so no backslash waits for this one
    rw [he rfl, closes_blank hclose hc, ih fun _ => rfl]

/-- A text is blank exactly if it was blank before it was respaced. -/
theorem all_isBlank {held : Bool} {cs ds : List Char} (h : Respaced held cs ds) :
    cs.all isBlank = ds.all isBlank := by
  induction h with
  | tail hrun => rw [List.all_nil, List.all_eq_true.2 hrun]
  | char hc _ _ => rw [List.all_cons, List.all_cons, hc]; rfl
  | blank hc hd _ _ ih => rw [List.all_cons, List.all_cons, hc, hd, ih]
  | drop hc _ ih => rw [List.all_cons, hc, ih, Bool.true_and]

/-- A line is respaced by what respaces it whatever follows. -/
theorem of_line {f : List Char → List Char} {line : List Char}
    (h : ∀ {cs ds : List Char}, Respaced false cs ds → Respaced false (line ++ cs) (f line ++ ds)) :
    Respaced false line (f line) := by
  have hline := h (.tail (by simp) : Respaced false [] [])
  rwa [List.append_nil, List.append_nil] at hline

end Respaced

/-- A literal that nothing closes is still not closed once the line is squeezed. -/
theorem splitLiteral_squeeze_eq_none {close : Char} (hclose : isBlank close = false)
    {cs : List Char} (h : splitLiteral close cs = none) :
    splitLiteral close (squeeze cs) = none := by
  have hrespaced : Respaced false cs (squeeze cs) :=
    Respaced.of_line fun h => respaced_squeeze cs h
  rw [splitLiteral_eq_none_iff] at h ⊢
  rw [← hrespaced.closes_eq hclose (by simp), h]

/-! ## The tokens of a squeezed line -/

theorem squeeze_nil : squeeze [] = [] := by
  unfold squeeze
  rw [Token.scan]
  rfl

namespace Token

theorem squeeze_squeeze (t : Token) : t.squeeze.squeeze = t.squeeze := by
  cases t with
  | quoted body => rfl
  | char c => rfl
  | blanks run => rfl
  | pattern opener gap body => cases gap <;> rfl

/-- The first token of a line and what follows it, by what the line starts with. -/
inductive First : Char → List Char → Token → List Char → Prop
  /-- A quote that is closed. -/
  | quoted {rest : List Char} {p : List Char × List Char}
      (hlit : splitLiteral '"' rest = some p) : First '"' rest (.quoted p.1) p.2
  /-- A quote that nothing closes. -/
  | quote {rest : List Char} (hlit : splitLiteral '"' rest = none) :
      First '"' rest (.char '"') rest
  /-- A pattern that is closed, with a gap in front. -/
  | pattern {c : Char} (hc : c = '(' ∨ c = ',') {rest more : List Char}
      {p : List Char × List Char} (hslash : rest.dropWhile isBlank = '/' :: more)
      (hlit : splitLiteral '/' more = some p) :
      First c rest (.pattern c (rest.takeWhile isBlank) p.1) p.2
  /-- A slash that nothing closes. -/
  | slash {c : Char} (hc : c = '(' ∨ c = ',') {rest more : List Char}
      (hslash : rest.dropWhile isBlank = '/' :: more) (hlit : splitLiteral '/' more = none) :
      First c rest (.char c) rest
  /-- No slash where there could be one. -/
  | opener {c : Char} (hc : c = '(' ∨ c = ',') {rest : List Char}
      (hslash : ∀ more, rest.dropWhile isBlank ≠ '/' :: more) : First c rest (.char c) rest
  /-- A run of blanks. -/
  | blanks {c : Char} (hc : isBlank c = true) (rest : List Char) :
      First c rest (.blanks (c :: rest.takeWhile isBlank)) (rest.dropWhile isBlank)
  /-- Any other character. -/
  | char {c : Char} (hquote : c ≠ '"') (hopener : ¬ (c = '(' ∨ c = ',')) (hc : isBlank c = false)
      (rest : List Char) : First c rest (.char c) rest

/-- Every line starts with a first token. -/
theorem first_next (c : Char) (rest : List Char) :
    First c rest (next c rest).1 (next c rest).2 := by
  by_cases hquote : c = '"'
  · subst hquote
    rw [next, if_pos rfl]
    cases hlit : splitLiteral '"' rest with
    | some p => exact .quoted hlit
    | none => exact .quote hlit
  · rw [next, if_neg hquote]
    by_cases hopener : c = '(' ∨ c = ','
    · rw [if_pos hopener]
      split
      next more hslash =>
        cases hlit : splitLiteral '/' more with
        | some p => exact .pattern hopener hslash hlit
        | none => exact .slash hopener hslash hlit
      next hslash => exact .opener hopener hslash
    · rw [if_neg hopener]
      cases hc : isBlank c with
      | true => exact .blanks hc rest
      | false => exact .char hquote hopener hc rest

namespace First

variable {c : Char} {rest more : List Char} {t : Token}

/-- What starts a line is what is read there. -/
theorem next_eq (h : First c rest t more) : next c rest = (t, more) := by
  have hopens : ∀ {c : Char}, c = '(' ∨ c = ',' → c ≠ '"' := by
    rintro c hc rfl
    exact absurd hc (by decide)
  cases h with
  | quoted hlit => rw [next, if_pos rfl, hlit]
  | quote hlit => rw [next, if_pos rfl, hlit]
  | pattern hc hslash hlit =>
    rw [next, if_neg (hopens hc), if_pos hc, hslash]
    simp only [hlit]
  | slash hc hslash hlit =>
    rw [next, if_neg (hopens hc), if_pos hc, hslash]
    simp only [hlit]
  | opener hc hslash =>
    rw [next, if_neg (hopens hc), if_pos hc]
    split
    next more hmore => exact absurd hmore (hslash more)
    next => rfl
  | blanks hc =>
    have hne := fun d hd => ne_of_isBlank_of_not (d := d) hc hd
    rw [next, if_neg (hne '"' (by decide)), if_neg, if_pos hc]
    rintro (h | h)
    · exact hne '(' (by decide) h
    · exact hne ',' (by decide) h
  | char hquote hopener hc => rw [next, if_neg hquote, if_neg hopener, if_neg (by simp [hc])]

/-- A character that is no blank opens the squeezed token too. -/
theorem head?_text_squeeze (h : First c rest t more) (hc : isBlank c = false) :
    t.squeeze.text.head? = some c := by
  cases h with
  | quoted | quote | pattern | slash | opener | char => rfl
  | blanks hblank =>
    rw [hblank] at hc
    exact absurd hc (by decide)

end First

end Token

/-- A line that starts with a character which is no blank still starts with it. -/
theorem exists_squeeze_cons {c : Char} (hc : isBlank c = false) (rest : List Char) :
    ∃ more, squeeze (c :: rest) = c :: more := by
  rw [squeeze_cons]
  have hhead := (Token.first_next c rest).head?_text_squeeze hc
  cases htext : (Token.next c rest).1.squeeze.text with
  | nil => rw [htext] at hhead; exact absurd hhead (by simp)
  | cons d more =>
    rw [htext] at hhead
    obtain rfl := Option.some.inj hhead
    exact ⟨_, rfl⟩

/-- The blanks at the start of a line become one space. -/
theorem squeeze_cons_blank {c : Char} (hc : isBlank c = true) (rest : List Char) :
    squeeze (c :: rest) = ' ' :: squeeze (rest.dropWhile isBlank) := by
  rw [squeeze_cons, (Token.First.blanks hc rest).next_eq]
  rfl

/-- A line that starts with no blank, or is empty. -/
theorem eq_nil_or_cons_of_dropWhile (cs : List Char) :
    cs.dropWhile isBlank = [] ∨ ∃ c rest, cs.dropWhile isBlank = c :: rest ∧ isBlank c = false := by
  cases h : cs.dropWhile isBlank with
  | nil => exact Or.inl rfl
  | cons c rest =>
    have hhead : (cs.dropWhile isBlank).head? = some c := by
      rw [h]
      rfl
    exact Or.inr ⟨c, rest, rfl, isBlank_of_head?_dropWhile hhead⟩

/-- Behind the blanks at the start of a line there is none, also once it is squeezed. -/
theorem squeeze_dropWhile_start {q : Char → Bool} (hq : ∀ {c}, isBlank c = false → ¬ q c = true)
    (cs : List Char) :
    (squeeze (cs.dropWhile isBlank)).takeWhile q = [] ∧
      (squeeze (cs.dropWhile isBlank)).dropWhile q = squeeze (cs.dropWhile isBlank) := by
  rcases eq_nil_or_cons_of_dropWhile cs with h | ⟨c, rest, h, hc⟩
  · rw [h, squeeze_nil]
    exact ⟨rfl, rfl⟩
  · obtain ⟨more, hmore⟩ := exists_squeeze_cons hc rest
    rw [h, hmore]
    exact ⟨List.takeWhile_cons_of_neg (hq hc), List.dropWhile_cons_of_neg (hq hc)⟩

/-- Squeezing leaves the blanks at the start of a line apart from what follows. -/
theorem dropWhile_squeeze (cs : List Char) :
    (squeeze cs).dropWhile isBlank = squeeze (cs.dropWhile isBlank) := by
  cases cs with
  | nil => exact (squeeze_dropWhile_start Bool.eq_false_iff.1 []).2
  | cons c rest =>
    cases hc : isBlank c with
    | true =>
      rw [squeeze_cons_blank hc, List.dropWhile_cons_of_pos (by decide),
        (squeeze_dropWhile_start Bool.eq_false_iff.1 rest).2, List.dropWhile_cons_of_pos hc]
    | false =>
      have h := (squeeze_dropWhile_start Bool.eq_false_iff.1 (c :: rest)).2
      rwa [List.dropWhile_cons_of_neg (Bool.eq_false_iff.1 hc)] at h ⊢

/-- The gap in front of a pattern, squeezed, is what stands in front of its slash. -/
theorem squeezed_gap (gap body : List Char) :
    ((if gap.isEmpty then [] else [' ']) ++ '/' :: body).takeWhile isBlank
        = (if gap.isEmpty then [] else [' ']) ∧
      ((if gap.isEmpty then [] else [' ']) ++ '/' :: body).dropWhile isBlank = '/' :: body := by
  have hslash : isBlank '/' = false := by decide
  have hspace : isBlank ' ' = true := by decide
  split <;> simp [hslash, hspace]

namespace Token

/-- **Squeezing does not move the first token**: a squeezed line starts with the first token
of the line, squeezed, and what follows is what follows it, squeezed. -/
theorem First.squeeze {c : Char} {rest more : List Char} {t : Token} (h : First c rest t more) :
    ∃ d more', t.squeeze.text ++ Text.squeeze more = d :: more' ∧
      First d more' t.squeeze (Text.squeeze more) := by
  cases h with
  | @quoted _ p hlit =>
    exact ⟨'"', p.1 ++ Text.squeeze p.2, rfl, .quoted (splitLiteral_append_of_eq_some hlit _)⟩
  | quote hlit =>
    exact ⟨'"', Text.squeeze rest, rfl,
      .quote (splitLiteral_squeeze_eq_none (by decide) hlit)⟩
  | @pattern _ hc _ _ p hslash hlit =>
    obtain ⟨htake, hdrop⟩ := squeezed_gap (rest.takeWhile isBlank) (p.1 ++ Text.squeeze p.2)
    refine ⟨c, _, congrArg (List.cons c) (List.append_assoc _ _ _), ?_⟩
    have hfirst := First.pattern hc hdrop (splitLiteral_append_of_eq_some hlit (Text.squeeze p.2))
    rwa [htake] at hfirst
  | @slash _ hc _ more hslash hlit =>
    -- the slash is still the first character behind the gap, and is still not closed
    have hrest : (Text.squeeze rest).dropWhile isBlank = '/' :: Text.squeeze more := by
      have hchar : First '/' more (.char '/') more :=
        .char (by decide) (by decide) (by decide) more
      rw [dropWhile_squeeze, hslash, squeeze_cons, hchar.next_eq]
      rfl
    exact ⟨c, Text.squeeze rest, rfl,
      .slash hc hrest (splitLiteral_squeeze_eq_none (by decide) hlit)⟩
  | opener hc hslash =>
    refine ⟨c, Text.squeeze rest, rfl, .opener hc fun more hmore => ?_⟩
    rw [dropWhile_squeeze] at hmore
    rcases eq_nil_or_cons_of_dropWhile rest with hnil | ⟨d, tail, hd, hblank⟩
    · rw [hnil, squeeze_nil] at hmore
      exact absurd hmore (by simp)
    · obtain ⟨more', hmore'⟩ := exists_squeeze_cons hblank tail
      rw [hd, hmore'] at hmore
      obtain ⟨rfl, -⟩ := List.cons.inj hmore
      exact hslash tail hd
  | blanks hc =>
    refine ⟨' ', Text.squeeze (rest.dropWhile isBlank), rfl, ?_⟩
    have hfirst : First ' ' (Text.squeeze (rest.dropWhile isBlank)) _ _ :=
      .blanks (by decide) (Text.squeeze (rest.dropWhile isBlank))
    obtain ⟨htake, hdrop⟩ := squeeze_dropWhile_start Bool.eq_false_iff.1 rest
    rwa [htake, hdrop] at hfirst
  | char hquote hopener hc =>
    exact ⟨c, Text.squeeze rest, rfl, .char hquote hopener hc _⟩

/-- **A squeezed line is scanned into the squeezed tokens of the line.** -/
theorem scan_squeeze (cs : List Char) :
    scan (Text.squeeze cs) = (scan cs).map squeeze := by
  induction cs using scan.induct with
  | case1 => rw [squeeze_nil, scan, List.map_nil]
  | case2 c rest ih =>
    obtain ⟨d, more, hsqueeze, hfirst⟩ := (first_next c rest).squeeze
    rw [squeeze_cons, hsqueeze, scan, hfirst.next_eq, ih, scan, List.map_cons]

end Token

/-- Squeezing a squeezed line changes nothing. -/
theorem squeeze_squeeze (cs : List Char) : squeeze (squeeze cs) = squeeze cs := by
  show ((Token.scan (squeeze cs)).flatMap fun t => t.squeeze.text)
    = (Token.scan cs).flatMap fun t => t.squeeze.text
  rw [Token.scan_squeeze, List.flatMap_map]
  simp only [Token.squeeze_squeeze]

/-! ## Lines in normal layout -/

theorem not_isIndent_of_not_isBlank {c : Char} (hc : isBlank c = false) : ¬ isIndent c = true := by
  intro h
  unfold isIndent at h
  rw [Bool.or_eq_true, beq_iff_eq, beq_iff_eq] at h
  rcases h with rfl | rfl <;> exact absurd hc (by decide)

/-- A squeezed line is in normal layout: the space that it may start with counts as
indentation from now on. -/
theorem normalizeLine_squeeze (cs : List Char) : normalizeLine (squeeze cs) = squeeze cs := by
  unfold normalizeLine
  cases cs with
  | nil =>
    rw [squeeze_nil]
    exact squeeze_nil
  | cons c rest =>
    cases hc : isBlank c with
    | true =>
      obtain ⟨htake, hdrop⟩ := squeeze_dropWhile_start not_isIndent_of_not_isBlank rest
      rw [squeeze_cons_blank hc, List.takeWhile_cons_of_pos (by decide),
        List.dropWhile_cons_of_pos (by decide), htake, hdrop, squeeze_squeeze]
      rfl
    | false =>
      obtain ⟨htake, hdrop⟩ := squeeze_dropWhile_start not_isIndent_of_not_isBlank (c :: rest)
      rw [List.dropWhile_cons_of_neg (Bool.eq_false_iff.1 hc)] at htake hdrop
      rw [htake, hdrop, squeeze_squeeze]
      rfl

/-- Spaces and tabs in front of a line are kept. -/
theorem normalizeLine_append {lead : List Char} (h : ∀ c ∈ lead, isIndent c = true)
    (cs : List Char) : normalizeLine (lead ++ cs) = lead ++ normalizeLine cs := by
  unfold normalizeLine
  rw [List.takeWhile_append_of_pos h, List.dropWhile_append_of_pos h, List.append_assoc]

theorem normalizeLine_normalizeLine (line : List Char) :
    normalizeLine (normalizeLine line) = normalizeLine line := by
  have hlead : ∀ c ∈ line.takeWhile isIndent, isIndent c = true :=
    fun _ hc => List.all_eq_true.1 List.all_takeWhile _ hc
  conv => arg 1; arg 1; unfold normalizeLine
  rw [normalizeLine_append hlead, normalizeLine_squeeze]
  rfl

/-- A line that a text in normal layout may have. -/
structure IsNormalLine (line : List Char) : Prop where
  /-- It is in normal layout. -/
  stable : normalizeLine line = line
  /-- It holds more than blanks. -/
  notBlank : line.all isBlank = false
  /-- It is one line. -/
  noLineFeed : '\n' ∉ line
  /-- It does not lose its last character to the line's end. -/
  noReturn : line.getLast? ≠ some '\r'

namespace Token

theorem mem_text_squeeze {t : Token} {c : Char} (h : c ∈ t.squeeze.text) :
    c ∈ t.text ∨ c = ' ' := by
  cases t with
  | quoted body => exact Or.inl h
  | char d => exact Or.inl h
  | blanks run => exact Or.inr (List.mem_singleton.1 h)
  | pattern opener gap body =>
    cases gap with
    | nil => exact Or.inl h
    | cons d gap =>
      rcases List.mem_cons.1 h with rfl | h
      · exact Or.inl List.mem_cons_self
      · rcases List.mem_cons.1 h with rfl | h
        · exact Or.inr rfl
        · exact Or.inl (List.mem_cons_of_mem _ (List.mem_append_right _ h))

/-- A squeezed token does not end in a carriage return. -/
theorem First.getLast?_text_squeeze {c : Char} {rest more : List Char} {t : Token}
    (h : First c rest t more) : t.squeeze.text.getLast? ≠ some '\r' := by
  have hliteral : ∀ {close : Char} {cs : List Char} {p : List Char × List Char} (front : List Char),
      close ≠ '\r' → splitLiteral close cs = some p → (front ++ p.1).getLast? ≠ some '\r' := by
    intro close cs p front hclose h
    rw [List.getLast?_append, getLast?_splitLiteral h, Option.some_or]
    exact fun he => hclose (Option.some.inj he)
  have hchar : ∀ {c : Char}, c ≠ '\r' → ([c] : List Char).getLast? ≠ some '\r' :=
    fun hc he => hc (Option.some.inj he)
  have hopener : ∀ {c : Char}, c = '(' ∨ c = ',' → c ≠ '\r' := by
    rintro c hc rfl
    exact absurd hc (by decide)
  cases h with
  | quoted hlit => exact hliteral ['"'] (by decide) hlit
  | quote => exact hchar (by decide)
  | @pattern _ _ _ _ p _ hlit =>
    show (c :: _ ++ (['/'] ++ p.1)).getLast? ≠ some '\r'
    rw [← List.append_assoc]
    exact hliteral _ (by decide) hlit
  | slash hc => exact hchar (hopener hc)
  | opener hc => exact hchar (hopener hc)
  | blanks =>
    have hspace : ' ' ≠ '\r' := by decide
    exact hchar hspace
  | char _ _ hc =>
    refine hchar ?_
    rintro rfl
    exact absurd hc (by decide)

end Token

/-- Squeezing adds no character but spaces. -/
theorem mem_squeeze {cs : List Char} {c : Char} (h : c ∈ squeeze cs) : c ∈ cs ∨ c = ' ' := by
  obtain ⟨t, ht, hc⟩ := List.mem_flatMap.1 h
  refine (Token.mem_text_squeeze hc).imp_left fun hc => ?_
  rw [← Token.flatMap_text_scan cs]
  exact List.mem_flatMap.2 ⟨t, ht, hc⟩

theorem getLast?_squeeze (cs : List Char) : (squeeze cs).getLast? ≠ some '\r' := by
  induction cs using Token.scan.induct with
  | case1 => rw [squeeze_nil]; decide
  | case2 c rest ih =>
    rw [squeeze_cons, List.getLast?_append]
    cases hrest : (squeeze (Token.next c rest).2).getLast? with
    | none => exact (Token.first_next c rest).getLast?_text_squeeze
    | some d => rw [hrest] at ih; exact ih

/-- A line that holds more than blanks is a line of a text in normal layout once it is in
normal layout itself. -/
theorem isNormalLine_normalizeLine {line : List Char} (hblank : line.all isBlank = false)
    (hfeed : '\n' ∉ line) : IsNormalLine (normalizeLine line) where
  stable := normalizeLine_normalizeLine line
  notBlank := by
    have hrespaced : Respaced false line (normalizeLine line) :=
      Respaced.of_line fun h => respaced_normalizeLine line h
    rw [← hrespaced.all_isBlank, hblank]
  noLineFeed := by
    intro h
    unfold normalizeLine at h
    rcases List.mem_append.1 h with h | h
    · exact hfeed ((List.takeWhile_prefix isIndent).subset h)
    · rcases mem_squeeze h with h | h
      · exact hfeed ((List.dropWhile_suffix isIndent).subset h)
      · exact absurd h (by decide)
  noReturn := by
    unfold normalizeLine
    rw [List.getLast?_append]
    cases hlast : (squeeze (line.dropWhile isIndent)).getLast? with
    | none =>
      intro h
      have hindent : isIndent '\r' = true :=
        List.all_eq_true.1 List.all_takeWhile _ (List.mem_of_getLast? h)
      exact absurd hindent (by decide)
    | some c =>
      have h := getLast?_squeeze (line.dropWhile isIndent)
      rwa [hlast] at h

/-! ## Texts in normal layout -/

theorem lines_cons {c : Char} {cs : List Char} (hc : c ≠ '\n')
    (hreturn : c = '\r' → cs.head? ≠ some '\n') :
    lines (c :: cs)
      = match lines cs with
        | [] => [[c]]
        | line :: more => (c :: line) :: more := by
  refine (lines.eq_def (c :: cs)).trans ?_
  split
  next h => exact absurd h (List.cons_ne_nil c cs)
  next rest h =>
    obtain ⟨rfl, rfl⟩ := List.cons.inj h
    exact absurd rfl (hreturn rfl)
  next rest h => exact absurd (List.cons.inj h).1 hc
  next d rest _ _ h =>
    obtain ⟨rfl, rfl⟩ := List.cons.inj h
    rfl

/-- A line up to its line feed. -/
theorem lines_append_lineFeed {line : List Char} (hfeed : '\n' ∉ line)
    (hreturn : line.getLast? ≠ some '\r') (rest : List Char) :
    lines (line ++ '\n' :: rest) = line :: lines rest := by
  induction line with
  | nil => rfl
  | cons c line ih =>
    rw [List.mem_cons, not_or] at hfeed
    rw [List.cons_append, lines_cons (Ne.symm hfeed.1), ih hfeed.2]
    · intro hlast
      refine hreturn ?_
      rw [List.getLast?_cons, hlast]
      rfl
    · rintro rfl hhead
      cases line with
      | nil => exact hreturn rfl
      | cons d line =>
        obtain rfl := Option.some.inj hhead
        exact hfeed.2 List.mem_cons_self

/-- A text without line feeds is one line. -/
theorem lines_of_not_mem {line : List Char} (hne : line ≠ []) (hfeed : '\n' ∉ line) :
    lines line = [line] := by
  induction line with
  | nil => exact absurd rfl hne
  | cons c line ih =>
    rw [List.mem_cons, not_or] at hfeed
    rw [lines_cons (Ne.symm hfeed.1)]
    · cases line with
      | nil => rfl
      | cons d line => rw [ih (by simp) hfeed.2]
    · intro _ hhead
      exact hfeed.2 (List.mem_of_head? hhead)

/-- The lines of a text that is written line by line are these lines. -/
theorem lines_unlines {ls : List (List Char)} (h : ∀ l ∈ ls, IsNormalLine l) :
    lines (unlines ls) = ls := by
  have hne : ∀ {l : List Char}, IsNormalLine l → l ≠ [] := by
    intro l hl hnil
    rw [hnil] at hl
    exact absurd hl.notBlank (by decide)
  induction ls with
  | nil => rfl
  | cons l ls ih =>
    rw [List.forall_mem_cons] at h
    cases ls with
    | nil => exact lines_of_not_mem (hne h.1) h.1.noLineFeed
    | cons next more =>
      rw [unlines_cons (by simp), lines_append_lineFeed h.1.noLineFeed h.1.noReturn, ih h.2]

/-- A text that is written in normal lines is in normal layout. -/
theorem normalizeChars_unlines {ls : List (List Char)} (h : ∀ l ∈ ls, IsNormalLine l) :
    normalizeChars (unlines ls) = unlines ls := by
  have hkept : ls.filter (fun line => !line.all isBlank) = ls :=
    List.filter_eq_self.2 fun l hl => by rw [(h l hl).notBlank]; rfl
  have hstable : ls.map normalizeLine = ls :=
    (List.map_congr_left fun l hl => (h l hl).stable).trans (List.map_id' ls)
  unfold normalizeChars
  rw [lines_unlines h, hkept, hstable]

/-- There is no line feed in a line. -/
theorem lineFeed_not_mem_lines {cs line : List Char} (h : line ∈ lines cs) : '\n' ∉ line := by
  fun_induction lines cs generalizing line with
  | case1 => exact absurd h List.not_mem_nil
  | case2 rest ih =>
    rcases List.mem_cons.1 h with rfl | h
    · exact List.not_mem_nil
    · exact ih h
  | case3 rest ih =>
    rcases List.mem_cons.1 h with rfl | h
    · exact List.not_mem_nil
    · exact ih h
  | case4 c rest _ hc hrest =>
    rw [List.mem_singleton.1 h]
    intro hmem
    exact hc (List.mem_singleton.1 hmem).symm
  | case5 c rest _ hc first more hrest ih =>
    rw [hrest] at ih
    rcases List.mem_cons.1 h with rfl | h
    · intro hmem
      rcases List.mem_cons.1 hmem with he | hmem
      · exact hc he.symm
      · exact ih List.mem_cons_self hmem
    · exact ih (List.mem_cons_of_mem _ h)

/-- The lines of a text in normal layout. -/
theorem isNormalLine_of_mem_normalLines {cs line : List Char} (h : line ∈ normalLines cs) :
    IsNormalLine line := by
  obtain ⟨l, hl, rfl⟩ := List.mem_map.1 h
  obtain ⟨hmem, hblank⟩ := List.mem_filter.1 hl
  exact isNormalLine_normalizeLine (by simpa using hblank) (lineFeed_not_mem_lines hmem)

/-- **Normal layout is stable**: to normalize a text again changes nothing, whatever the
text is. -/
theorem normalize_normalize (s : String) : normalize (normalize s) = normalize s := by
  unfold normalize
  rw [String.toList_ofList, normalizeChars_eq s.toList,
    normalizeChars_unlines fun _ => isNormalLine_of_mem_normalLines]

end Dql.Text
