import Dql.Proofs.Text.SingleSpaces
import Dql.Text.Join

/-!
# Where a text that was put together can be cut

A text is put together from parts with marks between them. The parts can be told again
from the text if no part holds the character that the mark behind it starts with: the
first place where that character stands is the end of the part (`cut`). The lemmas below
say so for the ways in which query text is put together: a list with a separator
(`following_cut`, `join_cut`), a list of parts that say themselves where they end
(`following_cut_of_cuts`, `infix_cut_of_cuts`), a name in front of a mark that is only
written if there is a name (`label_cut`), and lines, which layout leaves alone if they are
normal (`lines_eq_of_normalize_eq`). What stands around one part of a list does not depend on
that part (`wraps_join`).
-/

namespace Dql.Text

/-! ## Identifiers -/

/-- Whether a character may stand in an identifier. -/
def isIdentifierChar (c : Char) : Bool := c.isAlphanum || c == '_'

/-- Whether an identifier may start with a character. -/
def isIdentifierStart (c : Char) : Bool := c.isAlpha || c == '_'

/-- A name of ASCII letters, digits and underscores that does not start with a digit. -/
def IsIdentifier (s : String) : Prop :=
  ∃ c rest, s.toList = c :: rest ∧ isIdentifierStart c = true ∧ rest.all isIdentifierChar = true

theorem isIdentifierChar_of_start {c : Char} (h : isIdentifierStart c = true) :
    isIdentifierChar c = true := by
  unfold isIdentifierStart at h
  unfold isIdentifierChar Char.isAlphanum
  rw [Bool.or_eq_true] at h ⊢
  exact h.imp_left fun h => by rw [h]; rfl

theorem isIdentifierChar_of_isDigit {c : Char} (h : c.isDigit = true) :
    isIdentifierChar c = true := by
  unfold isIdentifierChar Char.isAlphanum
  rw [h, Bool.or_true, Bool.true_or]

/-- No identifier starts with a digit. -/
theorem not_isDigit_of_isIdentifierStart {c : Char} (h : isIdentifierStart c = true) :
    c.isDigit = false := by
  have hstart : isIdentifierStart c = (decide (c.val ≥ 65 ∧ c.val ≤ 90) ||
      (c.val ≥ 97 && c.val ≤ 122) || c == '_') := rfl
  have hdigit : c.isDigit = (decide (c.val ≥ 48) && decide (c.val ≤ 57)) := rfl
  rw [hstart] at h
  simp only [Bool.or_eq_true, Bool.and_eq_true, decide_eq_true_eq, beq_iff_eq,
    UInt32.le_iff_toNat_le, ge_iff_le] at h
  change ((65 ≤ c.toNat ∧ c.toNat ≤ 90) ∨ (97 ≤ c.toNat ∧ c.toNat ≤ 122)) ∨ c = '_' at h
  rw [hdigit, ← Bool.not_eq_true, Bool.and_eq_true, decide_eq_true_eq, decide_eq_true_eq, ge_iff_le,
    UInt32.le_iff_toNat_le, UInt32.le_iff_toNat_le]
  change ¬ (48 ≤ c.toNat ∧ c.toNat ≤ 57)
  rcases h with (h | h) | rfl
  · omega
  · omega
  · decide

/-- The code of an identifier's character lies between those of `0` and `z`. -/
theorem toNat_of_isIdentifierChar {c : Char} (h : isIdentifierChar c = true) :
    48 ≤ c.toNat ∧ c.toNat ≤ 122 := by
  have hclasses : isIdentifierChar c = (decide (c.val ≥ 65 ∧ c.val ≤ 90) ||
      (c.val ≥ 97 && c.val ≤ 122) || (c.val ≥ 48 && c.val ≤ 57) || c == '_') := rfl
  rw [hclasses] at h
  simp only [Bool.or_eq_true, Bool.and_eq_true, decide_eq_true_eq, beq_iff_eq,
    UInt32.le_iff_toNat_le, ge_iff_le] at h
  change (((65 ≤ c.toNat ∧ c.toNat ≤ 90) ∨ (97 ≤ c.toNat ∧ c.toNat ≤ 122)) ∨
    (48 ≤ c.toNat ∧ c.toNat ≤ 57)) ∨ c = '_' at h
  rcases h with ((h | h) | h) | rfl
  · omega
  · omega
  · omega
  · decide

theorem not_isBlank_of_isIdentifierChar {c : Char} (h : isIdentifierChar c = true) :
    isBlank c = false := by
  have hcodes : ∀ n ∈ blankCodes, ¬ (48 ≤ n ∧ n ≤ 122) := by decide
  rw [← Bool.not_eq_true]
  intro hblank
  exact hcodes _ (List.contains_iff_mem.1 hblank) (toNat_of_isIdentifierChar h)

/-- A text of such characters is a word. -/
theorem spacing_of_isIdentifierChar {s : String} (hne : s ≠ "")
    (hs : ∀ c ∈ s.toList, isIdentifierChar c = true) (held : Bool) :
    spacing held s.toList = some false := by
  refine spacing_of_word (fun hnil => hne (String.toList_inj.1 hnil)) ?_ held
  refine List.any_eq_false.2 fun c hc => ?_
  rw [not_isBlank_of_isIdentifierChar (hs c hc)]
  exact Bool.false_ne_true

instance (s : String) : Decidable (IsIdentifier s) :=
  match h : s.toList with
  | [] => .isFalse fun ⟨_, _, hs, _⟩ => absurd (h.symm.trans hs) (by simp)
  | c :: rest =>
    decidable_of_iff (isIdentifierStart c = true ∧ rest.all isIdentifierChar = true)
      ⟨fun hall => ⟨c, rest, h, hall⟩, fun ⟨_, _, hs, hall⟩ => by
        obtain ⟨rfl, rfl⟩ := List.cons.inj (h.symm.trans hs)
        exact hall⟩

namespace IsIdentifier

variable {s : String}

theorem ne_empty (h : IsIdentifier s) : s ≠ "" := by
  obtain ⟨c, rest, hs, -, -⟩ := h
  rintro rfl
  exact absurd hs (by simp)

theorem all (h : IsIdentifier s) : ∀ c ∈ s.toList, isIdentifierChar c = true := by
  obtain ⟨c, rest, hs, hc, hrest⟩ := h
  rw [hs, List.forall_mem_cons]
  exact ⟨isIdentifierChar_of_start hc, List.all_eq_true.1 hrest⟩

theorem exists_mem (h : IsIdentifier s) : ∃ c, c ∈ s.toList := by
  obtain ⟨c, rest, hs, -, -⟩ := h
  exact ⟨c, by rw [hs]; exact List.mem_cons_self⟩

/-- An identifier is a word. -/
theorem spacing (h : IsIdentifier s) (held : Bool) : spacing held s.toList = some false :=
  spacing_of_isIdentifierChar h.ne_empty h.all held

end IsIdentifier

/-! ## Cutting -/

section Cut

variable {α : Type} {q : α → Bool}

/-- A part ends where the first element stands that cannot be in it. -/
theorem takeWhile_part {v r : List α} (hv : ∀ c ∈ v, q c = true)
    (hr : ∀ c ∈ r.head?, q c = false) : (v ++ r).takeWhile q = v := by
  rw [List.takeWhile_append_of_pos hv]
  cases r with
  | nil => rw [List.takeWhile_nil, List.append_nil]
  | cons c r =>
    rw [List.takeWhile_cons_of_neg (by simp [hr c rfl]), List.append_nil]

theorem dropWhile_part {v r : List α} (hv : ∀ c ∈ v, q c = true)
    (hr : ∀ c ∈ r.head?, q c = false) : (v ++ r).dropWhile q = r := by
  have h := List.takeWhile_append_dropWhile (p := q) (l := v ++ r)
  rw [takeWhile_part hv hr] at h
  exact List.append_cancel_left h

/-- **A part and what follows it are known from the two together**, if what follows starts
with an element that cannot be in the part. -/
theorem cut {v w r s : List α} (hv : ∀ c ∈ v, q c = true) (hw : ∀ c ∈ w, q c = true)
    (hr : ∀ c ∈ r.head?, q c = false) (hs : ∀ c ∈ s.head?, q c = false) (h : v ++ r = w ++ s) :
    v = w ∧ r = s := by
  refine ⟨?_, ?_⟩
  · rw [← takeWhile_part hv hr, h, takeWhile_part hw hs]
  · rw [← dropWhile_part hv hr, h, dropWhile_part hw hs]

end Cut

/-! ## Words -/

theorem head?_cons_of_eq_false {α : Type} {q : α → Bool} {m : α} (hm : q m = false) (r : List α) :
    ∀ c ∈ (m :: r).head?, q c = false := by
  intro c hc
  obtain rfl := Option.some.inj hc
  exact hm

/-- The word that a text starts with, and the character behind it. -/
def opening (cs : List Char) : List Char × Option Char :=
  (cs.takeWhile isIdentifierChar, (cs.dropWhile isIdentifierChar).head?)

theorem opening_append {w r : List Char} (hw : ∀ c ∈ w, isIdentifierChar c = true)
    (hr : ∀ c ∈ r.head?, isIdentifierChar c = false) : opening (w ++ r) = (w, r.head?) := by
  unfold opening
  rw [takeWhile_part hw hr, dropWhile_part hw hr]

/-- A word with a mark behind it. -/
theorem opening_word {w : List Char} (hw : ∀ c ∈ w, isIdentifierChar c = true) {m : Char}
    (hm : isIdentifierChar m = false) (r : List Char) : opening (w ++ m :: r) = (w, some m) :=
  opening_append hw (head?_cons_of_eq_false hm r)

/-! ## Marks -/

section Mark

variable {p : Char → Bool} {mark : String} {m : Char} {more : List Char}

/-- A mark ends a part that cannot hold the character it starts with. -/
theorem head?_mark (hmark : mark.toList = m :: more) (hm : p m = false) (r : List Char) :
    ∀ c ∈ (mark.toList ++ r).head?, p c = false := by
  intro c hc
  rw [hmark] at hc
  obtain rfl := Option.some.inj hc
  exact hm

/-- A text that starts with another character does not start with the mark. -/
theorem not_mark_prefix_cons (hmark : mark.toList = m :: more) {d : Char} (hd : d ≠ m)
    (rest : List Char) : ¬ mark.toList <+: d :: rest := by
  rw [hmark, List.cons_prefix_cons]
  exact fun h => hd h.1.symm

end Mark

/-! ## Lists of texts -/

section Lists

/-- Texts one after the other, each behind a separator. -/
def following (sep : String) (ss : List String) : List Char :=
  ss.flatMap fun s => sep.toList ++ s.toList

theorem following_cons (sep s : String) (ss : List String) :
    following sep (s :: ss) = sep.toList ++ (s.toList ++ following sep ss) := by
  unfold following
  rw [List.flatMap_cons, List.append_assoc]

theorem toList_join_cons (sep s : String) (ss : List String) :
    (join sep (s :: ss)).toList = s.toList ++ following sep ss := by
  induction ss generalizing s with
  | nil => exact (List.append_nil _).symm
  | cons t ss ih =>
    rw [join_cons_cons, String.toList_append, String.toList_append, ih, following_cons,
      List.append_assoc]

/-- The text of a part comes out between two fixed texts. -/
def Wraps (f : String → String) : Prop := ∃ front back, ∀ s, f s = front ++ s ++ back

theorem wraps_between (front back : String) : Wraps fun s => front ++ s ++ back :=
  ⟨front, back, fun _ => rfl⟩

theorem wraps_behind (front : String) : Wraps fun s => front ++ s :=
  ⟨front, "", fun _ => String.append_empty.symm⟩

theorem Wraps.comp {f g : String → String} (hf : Wraps f) (hg : Wraps g) :
    Wraps fun s => f (g s) := by
  obtain ⟨front, back, hf⟩ := hf
  obtain ⟨front', back', hg⟩ := hg
  refine ⟨front ++ front', back' ++ back, fun s => ?_⟩
  show f (g s) = _
  rw [hf, hg]
  simp only [String.append_assoc]

/-- A part is known from the text around it. -/
theorem Wraps.eq_iff {f : String → String} (hf : Wraps f) (s t : String) : f s = f t ↔ s = t := by
  obtain ⟨front, back, hf⟩ := hf
  rw [hf, hf, String.append_left_inj, String.append_right_inj]

/-- One text of a list that is written with a separator. -/
theorem wraps_join (sep : String) (before after : List String) :
    Wraps fun s => join sep (before ++ s :: after) := by
  cases before with
  | nil =>
    refine ⟨"", String.ofList (following sep after), fun s => ?_⟩
    show join sep (s :: after) = _
    rw [← String.toList_inj, toList_join_cons]
    simp
  | cons b before =>
    refine ⟨String.ofList (b.toList ++ following sep before ++ sep.toList),
      String.ofList (following sep after), fun s => ?_⟩
    show join sep (b :: (before ++ s :: after)) = _
    rw [← String.toList_inj, toList_join_cons]
    simp [following]

theorem toList_join_map (sep : String) (ss : List String) :
    (join "" (ss.map (sep ++ ·))).toList = following sep ss := by
  cases ss with
  | nil => rfl
  | cons s ss =>
    rw [List.map_cons, toList_join_cons, following_cons, String.toList_append, List.append_assoc]
    unfold following
    rw [List.flatMap_map]
    simp

theorem spacing_following {sep : String} (hsep : spacing false sep.toList = some true)
    {ss : List String} (hss : ∀ s ∈ ss, spacing true s.toList = some false) :
    spacing false (following sep ss) = some false := by
  induction ss with
  | nil => rfl
  | cons s ss ih =>
    rw [List.forall_mem_cons] at hss
    rw [following_cons, spacing_append_of_eq_some hsep, spacing_append_of_eq_some hss.1, ih hss.2]

/-- What follows a list can be told from it: it starts with a character that is neither in
a part nor the first of the separator. -/
def Ends (p : Char → Bool) (m : Char) (r : List Char) : Prop :=
  ∀ c ∈ r.head?, p c = false ∧ c ≠ m

theorem ends_cons {p : Char → Bool} {m c : Char} (hc : p c = false ∧ c ≠ m) (r : List Char) :
    Ends p m (c :: r) := by
  intro d hd
  obtain rfl := Option.some.inj hd
  exact hc

variable {p : Char → Bool} {sep : String} {m : Char} {mark : List Char} {ss ts : List String}
  {r s : List Char}

/-- Behind a part there is the separator or what follows the list, and neither goes on with
the part. -/
theorem head?_following (hsep : sep.toList = m :: mark) (hm : p m = false) (ss : List String)
    (hr : Ends p m r) : ∀ c ∈ (following sep ss ++ r).head?, p c = false := by
  cases ss with
  | nil => exact fun c hc => (hr c hc).1
  | cons t ss =>
    rw [following_cons, List.append_assoc]
    exact head?_mark hsep hm _

/-- What follows a list does not look like one more part of it. -/
theorem following_cons_ne (hsep : sep.toList = m :: mark) (hr : Ends p m r) (t : String)
    (ts : List String) (s : List Char) : following sep (t :: ts) ++ s ≠ r := by
  rintro rfl
  rw [following_cons, hsep] at hr
  exact absurd rfl (hr m rfl).2

/-- **A list whose parts are written behind a separator each is known from the text.** -/
theorem following_cut (hsep : sep.toList = m :: mark) (hm : p m = false)
    (hss : ∀ t ∈ ss, ∀ c ∈ t.toList, p c = true) (hts : ∀ t ∈ ts, ∀ c ∈ t.toList, p c = true)
    (hr : Ends p m r) (hs : Ends p m s) (h : following sep ss ++ r = following sep ts ++ s) :
    ss = ts ∧ r = s := by
  induction ss generalizing ts with
  | nil =>
    cases ts with
    | nil => exact ⟨rfl, h⟩
    | cons u ts => exact absurd h.symm (following_cons_ne hsep hr u ts s)
  | cons t ss ih =>
    cases ts with
    | nil => exact absurd h (following_cons_ne hsep hs t ss r)
    | cons u ts =>
      rw [List.forall_mem_cons] at hss hts
      rw [following_cons, following_cons, List.append_assoc, List.append_assoc, List.append_assoc,
        List.append_assoc] at h
      obtain ⟨hpart, hrest⟩ := cut hss.1 hts.1 (head?_following hsep hm ss hr)
        (head?_following hsep hm ts hs) (List.append_cancel_left h)
      obtain ⟨rfl, rfl⟩ := ih hss.2 hts.2 hrest
      rw [String.toList_inj.1 hpart]
      exact ⟨rfl, rfl⟩

theorem join_cons_ne (hr : Ends p m r) {t : String} (ht : t ≠ "" ∧ ∀ c ∈ t.toList, p c = true)
    (ts : List String) (s : List Char) : (join sep (t :: ts)).toList ++ s ≠ r := by
  rintro rfl
  rw [toList_join_cons] at hr
  cases hlist : t.toList with
  | nil => exact absurd (String.toList_inj.1 hlist) ht.1
  | cons c cs =>
    rw [hlist] at hr ht
    have hc := (hr c rfl).1
    rw [ht.2 c List.mem_cons_self] at hc
    exact absurd hc (by decide)

/-- A list with a separator between its parts is known from the text, if no part is empty. -/
theorem join_cut (hsep : sep.toList = m :: mark) (hm : p m = false)
    (hss : ∀ t ∈ ss, t ≠ "" ∧ ∀ c ∈ t.toList, p c = true)
    (hts : ∀ t ∈ ts, t ≠ "" ∧ ∀ c ∈ t.toList, p c = true)
    (hr : Ends p m r) (hs : Ends p m s)
    (h : (join sep ss).toList ++ r = (join sep ts).toList ++ s) :
    ss = ts ∧ r = s := by
  cases ss with
  | nil =>
    cases ts with
    | nil => exact ⟨rfl, h⟩
    | cons u ts => exact absurd h.symm (join_cons_ne hr (hts u List.mem_cons_self) ts s)
  | cons t ss =>
    cases ts with
    | nil => exact absurd h (join_cons_ne hs (hss t List.mem_cons_self) ss r)
    | cons u ts =>
      rw [List.forall_mem_cons] at hss hts
      rw [toList_join_cons, toList_join_cons, List.append_assoc, List.append_assoc] at h
      obtain ⟨hpart, hrest⟩ := cut hss.1.2 hts.1.2 (head?_following hsep hm ss hr)
        (head?_following hsep hm ts hs) h
      obtain ⟨rfl, rfl⟩ := following_cut hsep hm (fun t ht => (hss.2 t ht).2)
        (fun t ht => (hts.2 t ht).2) hr hs hrest
      rw [String.toList_inj.1 hpart]
      exact ⟨rfl, rfl⟩

end Lists

/-! ## Parts that end by themselves -/

section Parts

variable {α : Type} {text : α → String} {F : List Char → Prop} {close : Char} {sep sep' : String}
  {xs ys : List α} {r s : List Char}

/-- The texts of two values can be cut from what stands behind them, if `F` says what may
stand there: the values and what is behind them are known from the two together. -/
def Cuts (text : α → String) (F : List Char → Prop) (x y : α) : Prop :=
  ∀ r s, F r → F s → (text x).toList ++ r = (text y).toList ++ s → x = y ∧ r = s

/-- A separator may stand behind a value, and does not start like the end of the list. -/
def IsSeparator (F : List Char → Prop) (close : Char) (sep : String) : Prop :=
  ∃ m mark, sep.toList = m :: mark ∧ m ≠ close ∧ ∀ r, F (m :: r)

/-- Behind each value of a list stands the separator or the character that closes the list. -/
theorem behind_following (hsep : IsSeparator F close sep) (hclose : ∀ r, F (close :: r))
    (ss : List String) (r : List Char) : F (following sep ss ++ close :: r) := by
  obtain ⟨m, mark, hmark, -, hm⟩ := hsep
  cases ss with
  | nil => exact hclose r
  | cons t ss =>
    rw [following_cons, List.append_assoc, hmark]
    exact hm _

/-- One more value of a list is not its end. -/
theorem following_cons_ne_close (hsep : IsSeparator F close sep) (t : String) (ts : List String)
    (r s : List Char) : following sep (t :: ts) ++ r ≠ close :: s := by
  obtain ⟨m, mark, hmark, hne, -⟩ := hsep
  rw [following_cons, List.append_assoc, hmark]
  exact fun h => hne (List.cons.inj h).1

/-- **Values that are written behind a separator each are known from the text**, if each of
them is and a character closes the list. -/
theorem following_cut_of_cuts (hsep : IsSeparator F close sep) (hclose : ∀ r, F (close :: r))
    (hcuts : ∀ x ∈ xs, ∀ y ∈ ys, Cuts text F x y)
    (h : following sep (xs.map text) ++ close :: r = following sep (ys.map text) ++ close :: s) :
    xs = ys ∧ r = s := by
  induction xs generalizing ys with
  | nil =>
    cases ys with
    | nil => exact ⟨rfl, (List.cons.inj h).2⟩
    | cons y ys => exact absurd h.symm (following_cons_ne_close hsep (text y) _ _ r)
  | cons x xs ih =>
    cases ys with
    | nil => exact absurd h (following_cons_ne_close hsep (text x) _ _ s)
    | cons y ys =>
      rw [List.map_cons, List.map_cons, following_cons, following_cons, List.append_assoc,
        List.append_assoc, List.append_assoc, List.append_assoc] at h
      obtain ⟨rfl, hrest⟩ := hcuts x List.mem_cons_self y List.mem_cons_self _ _
        (behind_following hsep hclose _ r) (behind_following hsep hclose _ s)
        (List.append_cancel_left h)
      obtain ⟨rfl, rfl⟩ := ih (fun x hx y hy =>
        hcuts x (List.mem_cons_of_mem _ hx) y (List.mem_cons_of_mem _ hy)) hrest
      exact ⟨rfl, rfl⟩

/-- The first value of a list is known from its text, and so is the text of the others. -/
theorem join_cons_cut_of_cuts (hsep : IsSeparator F close sep) (hsep' : IsSeparator F close sep')
    (hclose : ∀ r, F (close :: r)) {x y : α} (hcuts : Cuts text F x y)
    (h : (join sep ((x :: xs).map text)).toList ++ close :: r
      = (join sep' ((y :: ys).map text)).toList ++ close :: s) :
    x = y ∧
      following sep (xs.map text) ++ close :: r = following sep' (ys.map text) ++ close :: s := by
  rw [List.map_cons, List.map_cons, toList_join_cons, toList_join_cons, List.append_assoc,
    List.append_assoc] at h
  exact hcuts _ _ (behind_following hsep hclose _ r) (behind_following hsep' hclose _ s) h

/-- A list of such values with a separator between them is known from the text, if there are
any. -/
theorem join_cut_of_cuts (hsep : IsSeparator F close sep) (hclose : ∀ r, F (close :: r))
    (hxs : xs ≠ []) (hys : ys ≠ []) (hcuts : ∀ x ∈ xs, ∀ y ∈ ys, Cuts text F x y)
    (h : (join sep (xs.map text)).toList ++ close :: r
      = (join sep (ys.map text)).toList ++ close :: s) : xs = ys ∧ r = s := by
  obtain ⟨x, xs, rfl⟩ := List.exists_cons_of_ne_nil hxs
  obtain ⟨y, ys, rfl⟩ := List.exists_cons_of_ne_nil hys
  obtain ⟨rfl, hrest⟩ := join_cons_cut_of_cuts hsep hsep hclose
    (hcuts x List.mem_cons_self y List.mem_cons_self) h
  obtain ⟨rfl, rfl⟩ := following_cut_of_cuts hsep hclose (fun x hx y hy =>
    hcuts x (List.mem_cons_of_mem _ hx) y (List.mem_cons_of_mem _ hy)) hrest
  exact ⟨rfl, rfl⟩

/-- **The separator of a list is known from the text with the values**, if there are two of
them and the separators can be told apart in front of a value. -/
theorem infix_cut_of_cuts (hsep : IsSeparator F close sep) (hsep' : IsSeparator F close sep')
    (hclose : ∀ r, F (close :: r)) (hxs : 2 ≤ xs.length) (hys : 2 ≤ ys.length)
    (hcuts : ∀ x ∈ xs, ∀ y ∈ ys, Cuts text F x y)
    (hseps : ∀ x ∈ xs, ∀ y ∈ ys, ∀ r s,
      sep.toList ++ ((text x).toList ++ r) = sep'.toList ++ ((text y).toList ++ s) → sep = sep')
    (h : (join sep (xs.map text)).toList ++ close :: r
      = (join sep' (ys.map text)).toList ++ close :: s) : sep = sep' ∧ xs = ys ∧ r = s := by
  match xs, ys, hxs, hys with
  | x :: x' :: xs, y :: y' :: ys, _, _ =>
    obtain ⟨-, hrest⟩ := join_cons_cut_of_cuts hsep hsep' hclose
      (hcuts x List.mem_cons_self y List.mem_cons_self) h
    rw [List.map_cons, List.map_cons, following_cons, following_cons, List.append_assoc,
      List.append_assoc, List.append_assoc, List.append_assoc] at hrest
    have hmem : ∀ {z z' : α} {zs : List α}, z' ∈ z :: z' :: zs :=
      List.mem_cons_of_mem _ List.mem_cons_self
    obtain rfl := hseps x' hmem y' hmem _ _ hrest
    exact ⟨rfl, join_cut_of_cuts hsep hclose (by simp) (by simp) hcuts h⟩

end Parts

/-! ## A name that may be missing -/

/-- What a text goes on with behind the name that it may start with. -/
def behindName (cs : List Char) : List Char := cs.dropWhile isIdentifierChar

theorem behindName_append {name : String} (h : IsIdentifier name) {r : List Char}
    (hr : ∀ c ∈ r.head?, isIdentifierChar c = false) : behindName (name.toList ++ r) = r :=
  dropWhile_part h.all hr

section Label

variable {mark name : String} {m : Char} {more : List Char}

/-- Behind a name that is written there stands its mark. -/
theorem behindName_label (hmark : mark.toList = m :: more) (hm : isIdentifierChar m = false)
    (hname : IsIdentifier name) (t : List Char) :
    behindName ((unlessEmpty name fun v => v ++ mark).toList ++ t) = mark.toList ++ t := by
  have hempty : ¬ name.isEmpty = true := by simpa using hname.ne_empty
  unfold unlessEmpty
  rw [if_neg hempty, String.toList_append, List.append_assoc]
  exact behindName_append hname (head?_mark hmark hm t)

theorem spacing_label (hmark : spacing false mark.toList = some true)
    (hname : name = "" ∨ IsIdentifier name) :
    spacing true (unlessEmpty name fun v => v ++ mark).toList = some true := by
  rcases hname with rfl | hname
  · rfl
  · have hempty : ¬ name.isEmpty = true := by simpa using hname.ne_empty
    unfold unlessEmpty
    rw [if_neg hempty, String.toList_append, spacing_append_of_eq_some (hname.spacing true), hmark]

/-- **Whether a name with a mark stands in front of a text, and which**, is known from the
two together, if no mark stands behind the first name of the text itself. -/
theorem label_cut {name' : String} {t t' : List Char}
    (hmark : mark.toList = m :: more) (hm : isIdentifierChar m = false)
    (hname : name = "" ∨ IsIdentifier name) (hname' : name' = "" ∨ IsIdentifier name')
    (ht : ¬ mark.toList <+: behindName t) (ht' : ¬ mark.toList <+: behindName t')
    (h : (unlessEmpty name fun v => v ++ mark).toList ++ t
      = (unlessEmpty name' fun v => v ++ mark).toList ++ t') : name = name' ∧ t = t' := by
  have hbehind := congrArg behindName h
  rcases hname with rfl | hname
  · rcases hname' with rfl | hname'
    · exact ⟨rfl, h⟩
    · rw [behindName_label hmark hm hname' t'] at hbehind
      exact absurd ⟨t', hbehind.symm⟩ ht
  · rw [behindName_label hmark hm hname t] at hbehind
    rcases hname' with rfl | hname'
    · exact absurd ⟨t, hbehind⟩ ht'
    · rw [behindName_label hmark hm hname' t'] at hbehind
      obtain rfl := List.append_cancel_left hbehind
      have hlabel := String.toList_inj.1 (List.append_cancel_right h)
      unfold unlessEmpty at hlabel
      rw [if_neg (by simpa using hname.ne_empty), if_neg (by simpa using hname'.ne_empty)] at hlabel
      exact ⟨(String.append_left_inj mark).1 hlabel, rfl⟩

end Label

/-! ## Lines -/

theorem toList_join_lineFeed (ls : List String) :
    (join "\n" ls).toList = unlines (ls.map String.toList) := by
  induction ls with
  | nil => rfl
  | cons l ls ih =>
    cases ls with
    | nil => rfl
    | cons next ls =>
      rw [join_cons_cons, String.toList_append, String.toList_append, ih, List.map_cons,
        List.map_cons, List.append_assoc]
      rfl

/-- **Normal lines are known from the layout of the text that they make up.** -/
theorem lines_eq_of_normalize_eq {ls ls' : List String} (h : ∀ l ∈ ls, IsNormalLine l.toList)
    (h' : ∀ l ∈ ls', IsNormalLine l.toList)
    (heq : normalize (join "\n" ls) = normalize (join "\n" ls')) : ls = ls' := by
  have hlines : ∀ {ks : List String}, (∀ l ∈ ks, IsNormalLine l.toList) →
      lines (normalize (join "\n" ks)).toList = ks.map String.toList := by
    intro ks hks
    have hmap : ∀ l ∈ ks.map String.toList, IsNormalLine l := by
      intro l hl
      obtain ⟨k, hk, rfl⟩ := List.mem_map.1 hl
      exact hks k hk
    unfold normalize
    rw [String.toList_ofList, toList_join_lineFeed, normalizeChars_unlines hmap,
      lines_unlines hmap]
  have hboth : ls.map String.toList = ls'.map String.toList := by
    rw [← hlines h, heq, hlines h']
  exact (List.map_inj_right fun _ _ => String.toList_inj.1).1 hboth

end Dql.Text
