import Dql.Json.Printer
import Dql.Proofs.Text.Lines
import Dql.Proofs.Uid

/-!
# A compact value is one line

A value that is written compactly holds no line feed, whatever its strings say: a number is
written with digits and a few signs, and a string escapes every line feed
(`Json.oneLine_compact`).
-/

namespace Dql

open Text

/-! ## Numbers -/

theorem lineFeed_not_mem_toDigits (n : Nat) : '\n' ∉ Nat.toDigits 10 n :=
  fun h => absurd (Uid.isDigit_of_mem_toDigits h) (by decide)

namespace Double

theorem lineFeed_not_mem_exponentText (e : Int) : '\n' ∉ exponentText e := by
  unfold exponentText
  split <;> simp [lineFeed_not_mem_toDigits]

theorem lineFeed_not_mem_placePoint {digits : List Char} (h : '\n' ∉ digits) (point : Int) :
    '\n' ∉ placePoint digits point := by
  have htake : ∀ n, '\n' ∉ digits.take n := fun n hmem => h (List.mem_of_mem_take hmem)
  have hdrop : ∀ n, '\n' ∉ digits.drop n := fun n hmem => h (List.mem_of_mem_drop hmem)
  unfold placePoint
  split
  · split
    · simp [h]
    · dsimp only
      split
      · simp [h]
      · simp [htake, hdrop]
  · match digits, h with
    | [], _ => simp [lineFeed_not_mem_exponentText]
    | [_], h => simpa [lineFeed_not_mem_exponentText] using h
    | _ :: _ :: _, h => simpa [lineFeed_not_mem_exponentText] using h

theorem lineFeed_not_mem_toText (x : Double) : '\n' ∉ x.toText := by
  have hplaced : ∀ n power point,
      '\n' ∉ placePoint (dropZeros (Nat.toDigits 10 n) power).1 point := fun n power point =>
    lineFeed_not_mem_placePoint
      (fun hmem => lineFeed_not_mem_toDigits n (List.mem_of_mem_take hmem)) point
  unfold toText
  dsimp only
  split
  · split
    · decide
    · simpa using hplaced _ _ _
  · split
    · decide
    · exact hplaced _ _ _

end Double

theorem Number.lineFeed_not_mem_toText (n : Number) : '\n' ∉ n.toText := by
  cases n with
  | int n =>
    rw [toText]
    split <;> simp [lineFeed_not_mem_toDigits]
  | double x => exact x.lineFeed_not_mem_toText

/-! ## Values -/

namespace Json

theorem lineFeed_not_mem_escapeChar (c : Char) : '\n' ∉ escapeChar c := by
  have hcontrol : ∀ n : Fin 0x20, '\n' ∉ Uid.hexDigits n.val := by decide
  unfold escapeChar
  -- the fixed escapes first: what is left is a code in hexadecimal, or the character itself
  repeat' split
  all_goals try decide
  next hlow =>
    have hdigits := hcontrol ⟨c.toNat, hlow⟩
    simp only at hdigits
    simp [hdigits]
  next hfeed _ _ _ => exact fun h => hfeed (List.mem_singleton.1 h).symm

theorem oneLine_quote (s : String) : OneLine (quote s) := by
  have hchars : '\n' ∉ s.toList.flatMap escapeChar := by
    intro hmem
    obtain ⟨c, -, hc⟩ := List.mem_flatMap.1 hmem
    exact lineFeed_not_mem_escapeChar c hc
  unfold OneLine quote
  simp [hchars]

mutual

/-- **A value that is written compactly is one line.** -/
theorem oneLine_compact : ∀ j : Json, OneLine j.compact
  | null => by decide
  | bool b => by cases b <;> decide
  | number n => by
    unfold OneLine
    rw [compact, scalarText, String.toList_ofList]
    · exact n.lineFeed_not_mem_toText
    all_goals simp
  | string s => oneLine_quote s
  | array items => (oneLine_compactItems items).within (by decide) (by decide)
  | object members => (oneLine_compactMembers members).within (by decide) (by decide)

theorem oneLine_compactItems : ∀ items : List Json, OneLine (compactItems items)
  | [] => by decide
  | [x] => oneLine_compact x
  | x :: y :: rest =>
    ((oneLine_compact x).append (by decide)).append (oneLine_compactItems (y :: rest))

theorem oneLine_compactMembers : ∀ members : List (String × Json),
    OneLine (compactMembers members)
  | [] => by decide
  | [(k, x)] => ((oneLine_quote k).append (by decide)).append (oneLine_compact x)
  | (k, x) :: m :: rest =>
    ((((oneLine_quote k).append (by decide)).append (oneLine_compact x)).append
      (by decide)).append (oneLine_compactMembers (m :: rest))

end

end Json

end Dql
