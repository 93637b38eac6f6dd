import Dql.Uid

/-!
# Identifiers are known from their text

The digits that a number is written with read back as the number, in any base up to
sixteen (`readDigits_toDigits`), and so do they with a zero in front, which brings a
single hexadecimal digit to two places. Different identifiers therefore have different
texts (`format_injective`), and an identifier in decimal is read as itself
(`ofDecimal?_toDigits`).
-/

namespace Dql.Uid

theorem digit?_digitChar {base d : Nat} (hbase : base ≤ 16) (h : d < base) :
    digit? base (Nat.digitChar d) = some d := by
  have hall : ∀ base : Fin 17, ∀ d : Fin 16, d.val < base.val →
      digit? base.val (Nat.digitChar d.val) = some d.val := by decide
  exact hall ⟨base, by omega⟩ ⟨d, by omega⟩ h

/-- Digits that are read onto a value may be read in two goes. -/
theorem readDigits_append {base value n : Nat} {cs : List Char}
    (h : readDigits base value cs = .ok n) (ds : List Char) :
    readDigits base value (cs ++ ds) = readDigits base n ds := by
  induction cs generalizing value with
  | nil =>
    obtain rfl := Except.ok.inj h
    rfl
  | cons c cs ih =>
    rw [readDigits] at h
    rw [List.cons_append, readDigits]
    split at h
    · exact absurd h (by simp)
    · split at h
      next d _ hlt =>
        rw [if_pos hlt]
        exact ih h
      next => exact absurd h (by simp)

/-- The digits of a number that fits into 64 bits read back as the number. -/
theorem readDigits_toDigits {base n : Nat} (hone : 1 < base) (hbase : base ≤ 16)
    (h : n < UInt64.size) : readDigits base 0 (Nat.toDigits base n) = .ok n := by
  induction n using Nat.strongRecOn with
  | _ n ih =>
    -- one digit is read onto what was read before it
    have hstep : ∀ m, m * base + n % base = n →
        readDigits base m [Nat.digitChar (n % base)] = .ok n := by
      intro m hm
      have hdigit : n % base < base := Nat.mod_lt n (by omega)
      rw [readDigits, digit?_digitChar hbase hdigit]
      dsimp only
      rw [hm, if_pos h, readDigits]
    rcases Nat.lt_or_ge n base with hn | hn
    · rw [Nat.toDigits_of_lt_base hn]
      have hlast := hstep 0 (by rw [Nat.mod_eq_of_lt hn]; omega)
      rwa [Nat.mod_eq_of_lt hn] at hlast
    · have hless : n / base < n := Nat.div_lt_self (by omega) hone
      rw [Nat.toDigits_of_base_le hone hn, readDigits_append (ih (n / base) hless (by omega))]
      exact hstep (n / base) (Nat.div_add_mod' n base)

/-- A number without a plus sign in front is its digits. -/
theorem readNumber_eq_readDigits {base : Nat} {cs : List Char} (hne : cs ≠ []) (hplus : '+' ∉ cs) :
    readNumber base cs = readDigits base 0 cs := by
  unfold readNumber
  split
  next => exact absurd rfl hne
  next => exact absurd List.mem_cons_self hplus
  next => exact absurd List.mem_cons_self hplus
  next => rfl

theorem readDigits_hexDigits {n : Nat} (h : n < UInt64.size) :
    readDigits 16 0 (hexDigits n) = .ok n := readDigits_toDigits (by decide) (by decide) h

/-- What stands behind the `0x` of an identifier is read as its value. -/
theorem exists_format_eq (u : Uid) :
    ∃ digits, u.format.toList = '0' :: 'x' :: digits ∧ readDigits 16 0 digits = .ok u.toNat := by
  have hdigits := readDigits_hexDigits u.toNat_lt
  unfold format
  rw [String.toList_ofList]
  refine ⟨_, rfl, ?_⟩
  split
  · -- a zero in front adds nothing
    exact hdigits
  · exact hdigits

/-- **Different identifiers have different texts.** -/
theorem format_injective {u v : Uid} (h : u.format = v.format) : u = v := by
  obtain ⟨us, hus, hu⟩ := exists_format_eq u
  obtain ⟨vs, hvs, hv⟩ := exists_format_eq v
  have hchars : '0' :: 'x' :: us = '0' :: 'x' :: vs := by rw [← hus, ← hvs, h]
  obtain rfl := (List.cons.inj (List.cons.inj hchars).2).2
  rw [hu] at hv
  exact UInt64.toNat_inj.1 (Except.ok.inj hv)

/-! ## Decimal digits -/

theorem toDigits_ne_nil (n : Nat) : Nat.toDigits 10 n ≠ [] := by
  rcases Nat.lt_or_ge n 10 with hn | hn
  · rw [Nat.toDigits_of_lt_base hn]
    simp
  · rw [Nat.toDigits_of_base_le (by decide) hn]
    simp

theorem isDigit_of_mem_toDigits {n : Nat} {c : Char} (h : c ∈ Nat.toDigits 10 n) :
    c.isDigit = true := by
  have hdigit : ∀ d : Fin 10, (Nat.digitChar d.val).isDigit = true := by decide
  induction n using Nat.strongRecOn with
  | _ n ih =>
    rcases Nat.lt_or_ge n 10 with hn | hn
    · rw [Nat.toDigits_of_lt_base hn, List.mem_singleton] at h
      rw [h]
      exact hdigit ⟨n, hn⟩
    · rw [Nat.toDigits_of_base_le (by decide) hn, List.mem_append, List.mem_singleton] at h
      rcases h with h | h
      · exact ih (n / 10) (by omega) h
      · rw [h]
        exact hdigit ⟨n % 10, Nat.mod_lt n (by decide)⟩

/-- Only zero is written with a zero in front. -/
theorem head?_toDigits_ne_zero {n : Nat} (h : 0 < n) :
    (Nat.toDigits 10 n).head? ≠ some '0' := by
  have hdigit : ∀ d : Fin 10, 0 < d.val → Nat.digitChar d.val ≠ '0' := by decide
  induction n using Nat.strongRecOn with
  | _ n ih =>
    rcases Nat.lt_or_ge n 10 with hn | hn
    · rw [Nat.toDigits_of_lt_base hn, List.head?_cons, ne_eq, Option.some.injEq]
      exact hdigit ⟨n, hn⟩ h
    · have hfirst := ih (n / 10) (by omega) (by omega)
      rw [Nat.toDigits_of_base_le (by decide) hn]
      cases hdigits : Nat.toDigits 10 (n / 10) with
      | nil => exact absurd hdigits (toDigits_ne_nil _)
      | cons c cs =>
        rw [hdigits] at hfirst
        exact hfirst

/-- An identifier is read from its decimal digits. -/
theorem ofDecimal?_toDigits (u : Uid) :
    ofDecimal? (String.ofList (Nat.toDigits 10 u.toNat)) = some u := by
  have hplus : '+' ∉ Nat.toDigits 10 u.toNat := by
    intro hmem
    exact absurd (isDigit_of_mem_toDigits hmem) (by decide)
  have hread : readNumber 10 (Nat.toDigits 10 u.toNat) = .ok u.toNat := by
    rw [readNumber_eq_readDigits (toDigits_ne_nil _) hplus]
    exact readDigits_toDigits (by decide) (by decide) u.toNat_lt
  unfold ofDecimal?
  rw [String.toList_ofList, hread]
  exact congrArg some (UInt64.ofNat_toNat)

/-! ## The characters of a text -/

/-- The characters that identifiers are written with. -/
def characters : List Char := 'x' :: "0123456789abcdef".toList

/-- An identifier is written with hexadecimal digits and an `x`. -/
theorem mem_format {u : Uid} {c : Char} (h : c ∈ u.format.toList) : c ∈ characters := by
  have hdigit : ∀ d, d < 16 → Nat.digitChar d ∈ characters := by
    intro d hd
    have hall : ∀ d : Fin 16, Nat.digitChar d ∈ characters := by decide
    exact hall ⟨d, hd⟩
  have hdigits : ∀ n, ∀ c ∈ hexDigits n, c ∈ characters := by
    intro n
    induction n using Nat.strongRecOn with
    | _ n ih =>
      intro c hc
      unfold hexDigits at hc
      rcases Nat.lt_or_ge n 16 with hn | hn
      · rw [Nat.toDigits_of_lt_base hn, List.mem_singleton] at hc
        rw [hc]
        exact hdigit n hn
      · rw [Nat.toDigits_of_base_le (by decide) hn, List.mem_append] at hc
        rcases hc with hc | hc
        · exact ih (n / 16) (by omega) c hc
        · rw [List.mem_singleton.1 hc]
          exact hdigit (n % 16) (Nat.mod_lt n (by decide))
  unfold format at h
  rw [String.toList_ofList] at h
  rcases List.mem_cons.1 h with rfl | h
  · decide
  · rcases List.mem_cons.1 h with rfl | h
    · decide
    · split at h
      · rcases List.mem_cons.1 h with rfl | h
        · decide
        · exact hdigits _ c h
      · exact hdigits _ c h

end Dql.Uid
