import Dql.Proofs.Text.Blank
import Dql.Proofs.Uid
import Mathlib.Data.List.Forall2
import Mathlib.Data.List.Induction
import Mathlib.Data.Nat.Digits.Defs

/-!
# Which texts name an identifier

An identifier that a store reports is read by a small grammar: blanks around it, a prefix
that announces the base (`Announces`), one plus sign at most (`Signed`), and the digits of
a number that fits into 64 bits (`IsNumeral`). `Reads` says for each text behind the
prefix what becomes of it: the number, or the complaint about the first place at which
there is no number of 64 bits any more.

`parse?_eq_iff` says that `parse?` answers by this grammar and never otherwise. It rests on
two facts on the digit reader: it has the value of the numeral it has read
(`readDigits_eq_ok_iff`), and it stops at the first character that it cannot take
(`readDigits_eq_error_iff`).
-/

namespace Dql.Uid

/-! ## The grammar -/

/-- What the start of a text says about the base, and what it leaves to be read. -/
inductive Announces : List Char → Nat → List Char → Prop where
  | hexadecimal {x : Char} (hx : x = 'x' ∨ x = 'X') (body : List Char) :
      Announces ('0' :: x :: body) 16 body
  | octal {x : Char} (hx : x = 'o' ∨ x = 'O') (body : List Char) :
      Announces ('0' :: x :: body) 8 body
  | binary {x : Char} (hx : x = 'b' ∨ x = 'B') (body : List Char) :
      Announces ('0' :: x :: body) 2 body
  /-- Without a prefix the whole text is decimal. -/
  | decimal {body : List Char}
      (h : ∀ x rest, body = '0' :: x :: rest → x ∉ ['x', 'X', 'o', 'O', 'b', 'B']) :
      Announces body 10 body

/-- A plus sign may stand in front of the digits, once. -/
inductive Signed : List Char → List Char → Prop where
  | plus (digits : List Char) : Signed ('+' :: digits) digits
  | plain {digits : List Char} (h : digits.head? ≠ some '+') : Signed digits digits

/-- A character is the digit `d` of a base, in either case. -/
def IsDigit (base : Nat) (c : Char) (d : Nat) : Prop := d < base ∧ c.toLower = Nat.digitChar d

/-- Characters are digits of a base, and `n` is their positional value; the last is the lowest. -/
def IsNumeral (base : Nat) (cs : List Char) (n : Nat) : Prop :=
  ∃ ds, List.Forall₂ (IsDigit base) cs.reverse ds ∧ Nat.ofDigits base ds = n

/-- What becomes of the text behind a prefix. -/
inductive Reads (base : Nat) : List Char → Except ParseError Nat → Prop where
  | empty : Reads base [] (.error .empty)
  | loneSign : Reads base ['+'] (.error .invalidDigit)
  /-- A numeral that fits into 64 bits. -/
  | number {body digits : List Char} {n : Nat} (hsign : Signed body digits) (hne : digits ≠ [])
      (hn : IsNumeral base digits n) (hfits : n < UInt64.size) : Reads base body (.ok n)
  /-- Behind a numeral that fits, a character that is no digit. -/
  | invalidDigit {body front rest : List Char} {c : Char} {n : Nat}
      (hsign : Signed body (front ++ c :: rest)) (hn : IsNumeral base front n)
      (hfits : n < UInt64.size) (hc : ∀ d, ¬ IsDigit base c d) :
      Reads base body (.error .invalidDigit)
  /-- Behind a numeral that fits, a digit with which it does not fit any more. -/
  | tooLarge {body front rest : List Char} {c : Char} {m n : Nat}
      (hsign : Signed body (front ++ c :: rest)) (hm : IsNumeral base front m)
      (hfits : m < UInt64.size) (hn : IsNumeral base (front ++ [c]) n) (hlarge : UInt64.size ≤ n) :
      Reads base body (.error .tooLarge)

/-! ## Digits -/

theorem toLower_of_not_ascii {c : Char} (h : 128 ≤ c.toNat) : c.toLower = c := by
  have hlarge : 'Z'.val < c.val := by
    rw [UInt32.lt_iff_toNat_lt]
    exact Nat.lt_of_lt_of_le (by decide) h
  unfold Char.toLower
  rw [dif_neg]
  exact fun hupper => absurd hlarge (UInt32.not_lt.2 hupper.2)

/-- The digits of base sixteen: ASCII by inspection, and nothing else is one. -/
theorem digit?_sixteen {c : Char} {d : Nat} (hd : d < 16) :
    digit? 16 c = some d ↔ c.toLower = Nat.digitChar d := by
  have hascii : ∀ c : Fin 128, ∀ d : Fin 16, digit? 16 (Char.ofNat c.val) = some d.val ↔
      (Char.ofNat c.val).toLower = Nat.digitChar d.val := by decide +kernel
  rcases Nat.lt_or_ge c.toNat 128 with hc | hc
  · have h := hascii ⟨c.toNat, hc⟩ ⟨d, hd⟩
    rwa [Char.ofNat_toNat] at h
  · have hchar : ∀ d : Fin 16, (Nat.digitChar d.val).toNat < 128 := by decide
    have hbig : ∀ x : Char, x.toNat < 128 → ¬ c ≤ x := fun x hx hle =>
      absurd (Nat.le_trans hc (UInt32.le_iff_toNat_le.1 hle)) (Nat.not_le.2 hx)
    have hnone : digit? 16 c = none := by
      simp [digit?, hbig '9' (by decide), hbig 'z' (by decide), hbig 'Z' (by decide)]
    rw [hnone, toLower_of_not_ascii hc]
    refine iff_of_false (by simp) ?_
    rintro rfl
    exact absurd (hchar ⟨d, hd⟩) (Nat.not_lt.2 hc)

/-- A smaller base has the digits below it. -/
theorem digit?_of_le {base : Nat} (hbase : base ≤ 16) (c : Char) (d : Nat) :
    digit? base c = some d ↔ d < base ∧ digit? 16 c = some d := by
  unfold digit?
  dsimp only
  split
  · grind
  · split
    · grind
    · split
      · grind
      · grind

theorem digit?_eq_some_iff {base : Nat} (hbase : base ≤ 16) {c : Char} {d : Nat} :
    digit? base c = some d ↔ IsDigit base c d := by
  rw [digit?_of_le hbase]
  exact and_congr_right fun hd => digit?_sixteen (Nat.lt_of_lt_of_le hd hbase)

theorem digit?_eq_none_iff {base : Nat} (hbase : base ≤ 16) {c : Char} :
    digit? base c = none ↔ ∀ d, ¬ IsDigit base c d := by
  rw [Option.eq_none_iff_forall_ne_some]
  exact forall_congr' fun d => not_congr (digit?_eq_some_iff hbase)

/-! ## Numerals -/

theorem isNumeral_nil {base n : Nat} : IsNumeral base [] n ↔ n = 0 := by
  unfold IsNumeral
  rw [List.reverse_nil]
  constructor
  · rintro ⟨ds, hds, rfl⟩
    rw [List.forall₂_nil_left_iff.1 hds]
    rfl
  · rintro rfl
    exact ⟨[], .nil, rfl⟩

/-- A further digit at the end. -/
theorem isNumeral_append_singleton {base n : Nat} {cs : List Char} {c : Char} :
    IsNumeral base (cs ++ [c]) n ↔
      ∃ m d, IsNumeral base cs m ∧ IsDigit base c d ∧ m * base + d = n := by
  unfold IsNumeral
  rw [List.reverse_append, List.reverse_singleton, List.singleton_append]
  constructor
  · rintro ⟨ds, hds, rfl⟩
    obtain ⟨d, ds, hd, htail, rfl⟩ := List.forall₂_cons_left_iff.1 hds
    refine ⟨_, d, ⟨ds, htail, rfl⟩, hd, ?_⟩
    rw [Nat.ofDigits_cons, Nat.mul_comm, Nat.add_comm]
  · rintro ⟨m, d, ⟨ds, hds, rfl⟩, hd, rfl⟩
    refine ⟨d :: ds, .cons hd hds, ?_⟩
    rw [Nat.ofDigits_cons, Nat.mul_comm, Nat.add_comm]

/-- A character is one digit only, so a numeral has one value. -/
theorem isNumeral_unique {base : Nat} (hbase : base ≤ 16) {cs : List Char} {m n : Nat}
    (hm : IsNumeral base cs m) (hn : IsNumeral base cs n) : m = n := by
  have hdigit : Relator.RightUnique (IsDigit base) := fun c d d' hd hd' =>
    Option.some.inj
      (((digit?_eq_some_iff hbase).2 hd).symm.trans ((digit?_eq_some_iff hbase).2 hd'))
  obtain ⟨ds, hds, rfl⟩ := hm
  obtain ⟨ds', hds', rfl⟩ := hn
  rw [hdigit.forall₂ hds hds']

/-! ## Reading digits -/

section Digits

variable {base : Nat} (hbase : base ≤ 16)

theorem readDigits_append_of_error {value : Nat} {cs : List Char} {e : ParseError}
    (h : readDigits base value cs = .error e) (ds : List Char) :
    readDigits base value (cs ++ ds) = .error e := by
  induction cs generalizing value with
  | nil => simp [readDigits] at h
  | cons c cs ih =>
    rw [readDigits] at h
    rw [List.cons_append, readDigits]
    split at h
    · exact h
    · split at h
      next hlt =>
        rw [if_pos hlt]
        exact ih h
      next hlt =>
        rw [if_neg hlt]
        exact h

include hbase

/-- One more digit is taken exactly if it is one and the value still fits. -/
theorem readDigits_singleton_eq_ok_iff {c : Char} {m n : Nat} :
    readDigits base m [c] = .ok n ↔
      ∃ d, IsDigit base c d ∧ m * base + d = n ∧ n < UInt64.size := by
  rw [readDigits]
  cases hd : digit? base c with
  | none =>
    refine iff_of_false (by simp) ?_
    rintro ⟨d, hdigit, -⟩
    exact (digit?_eq_none_iff hbase).1 hd d hdigit
  | some d =>
    dsimp only
    have honly : ∀ d', IsDigit base c d' → d' = d := fun d' h' =>
      Option.some.inj (((digit?_eq_some_iff hbase).2 h').symm.trans hd)
    constructor
    · intro h
      split at h
      next hlt =>
        obtain rfl := Except.ok.inj h
        exact ⟨d, (digit?_eq_some_iff hbase).1 hd, rfl, hlt⟩
      next => simp at h
    · rintro ⟨d', h', rfl, hlt⟩
      rw [← honly d' h', if_pos hlt, readDigits]

/-- **What is read is the value of the numeral**, and it fits into 64 bits. -/
theorem readDigits_eq_ok_iff {cs : List Char} {n : Nat} :
    readDigits base 0 cs = .ok n ↔ IsNumeral base cs n ∧ n < UInt64.size := by
  induction cs using List.reverseRecOn generalizing n with
  | nil =>
    rw [readDigits, isNumeral_nil, Except.ok.injEq]
    constructor
    · rintro rfl
      exact ⟨rfl, by decide⟩
    · exact fun h => h.1.symm
  | append_singleton cs c ih =>
    rw [isNumeral_append_singleton]
    constructor
    · intro h
      cases hcs : readDigits base 0 cs with
      | error e =>
        rw [readDigits_append_of_error hcs] at h
        simp at h
      | ok m =>
        rw [readDigits_append hcs, readDigits_singleton_eq_ok_iff hbase] at h
        obtain ⟨d, hd, hvalue, hfits⟩ := h
        exact ⟨⟨m, d, (ih.1 hcs).1, hd, hvalue⟩, hfits⟩
    · rintro ⟨⟨m, d, hm, hd, rfl⟩, hfits⟩
      -- a numeral is no larger than one with a further digit
      have hle : m ≤ m * base := Nat.le_mul_of_pos_right m (Nat.lt_of_le_of_lt (Nat.zero_le d) hd.1)
      rw [readDigits_append (ih.2 ⟨hm, by omega⟩), readDigits_singleton_eq_ok_iff hbase]
      exact ⟨d, hd, rfl, hfits⟩

/-- A character is refused as no digit, or else because the value with it would not fit. -/
theorem readDigits_singleton_eq_error_iff {c : Char} {m : Nat} {e : ParseError} :
    readDigits base m [c] = .error e ↔
      (e = .invalidDigit ∧ ∀ d, ¬ IsDigit base c d) ∨
        (e = .tooLarge ∧ ∃ d, IsDigit base c d ∧ UInt64.size ≤ m * base + d) := by
  rw [readDigits]
  cases hd : digit? base c with
  | none =>
    have hnot := (digit?_eq_none_iff hbase).1 hd
    dsimp only
    rw [Except.error.injEq]
    constructor
    · rintro rfl
      exact .inl ⟨rfl, hnot⟩
    · rintro (⟨rfl, -⟩ | ⟨-, d, h, -⟩)
      · rfl
      · exact absurd h (hnot d)
  | some d =>
    have hdigit := (digit?_eq_some_iff hbase).1 hd
    dsimp only
    constructor
    · intro h
      split at h
      next => simp [readDigits] at h
      next hlt =>
        obtain rfl := Except.error.inj h
        exact .inr ⟨rfl, d, hdigit, Nat.not_lt.1 hlt⟩
    · rintro (⟨-, h⟩ | ⟨rfl, d', h', hlarge⟩)
      · exact absurd hdigit (h d)
      · obtain rfl := Option.some.inj (((digit?_eq_some_iff hbase).2 h').symm.trans hd)
        rw [if_neg (Nat.not_lt.2 hlarge)]

omit hbase in
/-- **Reading stops at the first character that cannot be taken**, and says what is wrong there. -/
theorem readDigits_eq_error_iff {value : Nat} {cs : List Char} {e : ParseError} :
    readDigits base value cs = .error e ↔
      ∃ front c rest m, cs = front ++ c :: rest ∧ readDigits base value front = .ok m ∧
        readDigits base m [c] = .error e := by
  constructor
  · induction cs generalizing value with
    | nil => simp [readDigits]
    | cons c rest ih =>
      intro h
      cases hc : readDigits base value [c] with
      | error e' =>
        have hall := readDigits_append_of_error hc rest
        rw [List.singleton_append, h] at hall
        obtain rfl := Except.error.inj hall
        exact ⟨[], c, rest, value, rfl, rfl, hc⟩
      | ok m =>
        rw [← List.singleton_append, readDigits_append hc] at h
        obtain ⟨front, d, rest', m', rfl, hfront, hd⟩ := ih h
        refine ⟨c :: front, d, rest', m', rfl, ?_, hd⟩
        rw [← List.singleton_append, readDigits_append hc, hfront]
  · rintro ⟨front, c, rest, m, rfl, hfront, hc⟩
    rw [readDigits_append hfront, ← List.singleton_append]
    exact readDigits_append_of_error hc rest

/-! ## The text behind a prefix -/

omit hbase in
theorem readNumber_of_signed {body digits : List Char} (h : Signed body digits)
    (hne : digits ≠ []) : readNumber base body = readDigits base 0 digits := by
  cases h with
  | plus =>
    cases digits with
    | nil => exact absurd rfl hne
    | cons => rfl
  | plain h =>
    unfold readNumber
    split
    next => exact absurd rfl hne
    next => exact absurd rfl h
    next => exact absurd rfl h
    next => rfl

omit hbase in
/-- What is left to read: nothing, a sign alone, or digits with or without one. -/
theorem signed_cases (body : List Char) :
    body = [] ∨ body = ['+'] ∨ ∃ digits, Signed body digits ∧ digits ≠ [] := by
  rcases body with _ | ⟨c, rest⟩
  · exact .inl rfl
  · by_cases hc : c = '+'
    · obtain rfl := hc
      rcases rest with _ | ⟨d, rest⟩
      · exact .inr (.inl rfl)
      · exact .inr (.inr ⟨_, .plus _, by simp⟩)
    · exact .inr (.inr ⟨_, .plain (by simpa using hc), by simp⟩)

/-- **What `readNumber` answers is what becomes of the text.** -/
theorem reads_iff {body : List Char} {r : Except ParseError Nat} :
    Reads base body r ↔ readNumber base body = r := by
  constructor
  · intro h
    cases h with
    | empty => rfl
    | loneSign => rfl
    | number hsign hne hn hfits =>
      rw [readNumber_of_signed hsign hne]
      exact (readDigits_eq_ok_iff hbase).2 ⟨hn, hfits⟩
    | invalidDigit hsign hn hfits hc =>
      rw [readNumber_of_signed hsign (by simp)]
      exact readDigits_eq_error_iff.2 ⟨_, _, _, _, rfl, (readDigits_eq_ok_iff hbase).2 ⟨hn, hfits⟩,
        (readDigits_singleton_eq_error_iff hbase).2 (.inl ⟨rfl, hc⟩)⟩
    | tooLarge hsign hm hfits hn hlarge =>
      have hfront := (readDigits_eq_ok_iff hbase).2 ⟨hm, hfits⟩
      obtain ⟨m', d, hm', hd, rfl⟩ := isNumeral_append_singleton.1 hn
      obtain rfl := isNumeral_unique hbase hm hm'
      rw [readNumber_of_signed hsign (by simp)]
      exact readDigits_eq_error_iff.2 ⟨_, _, _, _, rfl, hfront,
        (readDigits_singleton_eq_error_iff hbase).2 (.inr ⟨rfl, d, hd, hlarge⟩)⟩
  · rintro rfl
    rcases signed_cases body with rfl | rfl | ⟨digits, hsign, hne⟩
    · exact .empty
    · exact .loneSign
    · rw [readNumber_of_signed hsign hne]
      cases hread : readDigits base 0 digits with
      | ok n =>
        obtain ⟨hn, hfits⟩ := (readDigits_eq_ok_iff hbase).1 hread
        exact .number hsign hne hn hfits
      | error e =>
        obtain ⟨front, c, rest, m, rfl, hfront, hc⟩ := readDigits_eq_error_iff.1 hread
        obtain ⟨hm, hfits⟩ := (readDigits_eq_ok_iff hbase).1 hfront
        rcases (readDigits_singleton_eq_error_iff hbase).1 hc with
          ⟨rfl, hnot⟩ | ⟨rfl, d, hd, hlarge⟩
        · exact .invalidDigit hsign hm hfits hnot
        · exact .tooLarge hsign hm hfits (isNumeral_append_singleton.2 ⟨m, d, hm, hd, rfl⟩) hlarge

end Digits

/-! ## Prefixes -/

/-- **A prefix is split off exactly if it announces a base.** -/
theorem announces_iff {cs body : List Char} {base : Nat} :
    Announces cs base body ↔ splitBase cs = (base, body) := by
  constructor
  · intro h
    cases h with
    | hexadecimal hx => rcases hx with rfl | rfl <;> rfl
    | octal hx => rcases hx with rfl | rfl <;> rfl
    | binary hx => rcases hx with rfl | rfl <;> rfl
    | decimal h =>
      unfold splitBase
      split
      next => exact absurd (h _ _ rfl) (by decide)
      next => exact absurd (h _ _ rfl) (by decide)
      next => exact absurd (h _ _ rfl) (by decide)
      next => exact absurd (h _ _ rfl) (by decide)
      next => exact absurd (h _ _ rfl) (by decide)
      next => exact absurd (h _ _ rfl) (by decide)
      next => rfl
  · intro h
    unfold splitBase at h
    split at h
    all_goals
      obtain ⟨rfl, rfl⟩ := Prod.mk.inj h
    next => exact .hexadecimal (.inl rfl) _
    next => exact .hexadecimal (.inr rfl) _
    next => exact .octal (.inl rfl) _
    next => exact .octal (.inr rfl) _
    next => exact .binary (.inl rfl) _
    next => exact .binary (.inr rfl) _
    next hx hX ho hO hb hB =>
      refine .decimal fun x rest hbody hmem => ?_
      simp only [List.mem_cons, List.not_mem_nil, or_false] at hmem
      rcases hmem with rfl | rfl | rfl | rfl | rfl | rfl
      · exact hx rest hbody
      · exact hX rest hbody
      · exact ho rest hbody
      · exact hO rest hbody
      · exact hb rest hbody
      · exact hB rest hbody

theorem Announces.base_le {cs body : List Char} {base : Nat} (h : Announces cs base body) :
    base ≤ 16 := by
  cases h <;> decide

theorem readNumber_lt {base n : Nat} (hbase : base ≤ 16) {body : List Char}
    (h : readNumber base body = .ok n) : n < UInt64.size := by
  cases (reads_iff hbase).2 h with
  | number _ _ _ hfits => exact hfits

/-- Numbers that fit are the identifiers that are made of them. -/
theorem map_ofNat_eq_iff {x : Except ParseError Nat} (hx : ∀ n, x = .ok n → n < UInt64.size)
    {r : Except ParseError Uid} : x.map UInt64.ofNat = r ↔ x = r.map UInt64.toNat := by
  cases x with
  | error e => cases r <;> simp [Except.map]
  | ok n =>
    cases r with
    | error e => simp [Except.map]
    | ok u =>
      simp only [Except.map, Except.ok.injEq]
      constructor
      · rintro rfl
        exact (UInt64.toNat_ofNat_of_lt (hx n rfl)).symm
      · rintro rfl
        exact UInt64.ofNat_toNat

/-- **An identifier is read by its grammar and not otherwise**: the blanks around the text are
put aside, a prefix announces the base, and the rest is read as `Reads` says, to a number of 64
bits or to the complaint about the first place that allows none. -/
theorem parse?_eq_iff (text : String) (r : Except ParseError Uid) :
    parse? text = r ↔ ∃ core base body, Text.IsTrimmed text.toList core ∧
      Announces core base body ∧ Reads base body (r.map UInt64.toNat) := by
  obtain ⟨⟨base, body⟩, hsplit⟩ : ∃ p, splitBase (Text.trimBlank text.toList) = p := ⟨_, rfl⟩
  have hannounces := announces_iff.2 hsplit
  have hbase := hannounces.base_le
  have hparse : parse? text = (readNumber base body).map UInt64.ofNat := by
    unfold parse?
    rw [hsplit]
  rw [hparse, map_ofNat_eq_iff fun n => readNumber_lt hbase, ← reads_iff hbase]
  constructor
  · exact fun h => ⟨_, base, body, Text.isTrimmed_trimBlank _, hannounces, h⟩
  · -- the text determines what is trimmed, announced and left to read
    rintro ⟨core, base', body', hcore, hannounces', hreads⟩
    rw [← Text.isTrimmed_iff.1 hcore] at hannounces'
    obtain ⟨rfl, rfl⟩ := Prod.mk.inj (hsplit.symm.trans (announces_iff.1 hannounces'))
    exact hreads

end Dql.Uid
