import Dql.Proofs.Text.Spacing
import Dql.Text.Join
import Dql.Text.Quoted

/-!
# Where a text opens a lookup

Query text finds its nodes behind the word `func:`, unless that stands inside a
double-quoted literal. `lookups` counts the places of a text where it does. The count
is read off from left to right with the reader's place (`Place`) as the only state, so
it is additive wherever the word cannot straddle the cut (`lookupsFrom_append`), and
layout does not change it (`Respaced.lookupsFrom_eq`).

A text put together from others is accounted for by `Tallies s parts`: if each part
closes the literals that it opens, so does `s`, and `s` opens the lookups of the parts
and no others. The combinators below follow the ways in which query text is put
together: a text behind another at a character that is not in the word, a list joined
by a separator, a quoted literal, which never counts.
-/

namespace Dql.Text

/-! ## Reading from left to right -/

/-- Where a reader stands: outside of literals, inside of one, or inside of one behind
a backslash. -/
inductive Place where
  | outside
  | inside
  | escaped
deriving DecidableEq, Repr

namespace Place

/-- The place behind one more character. -/
def next : Place → Char → Place
  | outside, c => if c = '"' then inside else outside
  | inside, c => if c = '"' then outside else if c = '\\' then escaped else inside
  | escaped, _ => inside

/-- The place behind a text. -/
def after (p : Place) (cs : List Char) : Place := cs.foldl next p

@[simp] theorem after_nil (p : Place) : p.after [] = p := rfl

@[simp] theorem after_cons (p : Place) (c : Char) (cs : List Char) :
    p.after (c :: cs) = (p.next c).after cs := rfl

theorem after_append (p : Place) (xs ys : List Char) :
    p.after (xs ++ ys) = (p.after xs).after ys :=
  List.foldl_append

theorem ne_of_isBlank {c d : Char} (hc : isBlank c = true) (hd : isBlank d = false) : c ≠ d := by
  rintro rfl
  rw [hc] at hd
  simp at hd

theorem next_blank {p : Place} {c : Char} (hc : isBlank c = true) :
    p.next c = if p = escaped then inside else p := by
  cases p with
  | outside => simp [next, ne_of_isBlank hc (show isBlank '"' = false by decide)]
  | inside =>
    simp [next, ne_of_isBlank hc (show isBlank '"' = false by decide),
      ne_of_isBlank hc (show isBlank '\\' = false by decide)]
  | escaped => rfl

theorem next_blank_ne_escaped {p : Place} {c : Char} (hc : isBlank c = true) :
    p.next c ≠ escaped := by
  rw [next_blank hc]
  split
  · simp
  next h => exact h

end Place

/-- The word that opens a lookup. -/
def lookupWord : List Char := ['f', 'u', 'n', 'c', ':']

theorem any_isBlank_lookupWord : lookupWord.any isBlank = false := by decide

/-- How many lookups a text opens, for a reader who comes to it from a place. -/
def lookupsFrom (p : Place) : List Char → Nat
  | [] => 0
  | c :: rest =>
    (if p = .outside ∧ lookupWord.isPrefixOf (c :: rest) = true then 1 else 0) +
      lookupsFrom (p.next c) rest

/-- How many lookups a text opens. -/
def lookups (s : String) : Nat := lookupsFrom .outside s.toList

/-- How many lookups texts open together. -/
def lookupsIn : List String → Nat
  | [] => 0
  | s :: rest => lookups s + lookupsIn rest

/-- A text closes every literal that it opens. -/
def ClosesLiterals (s : String) : Prop := Place.after .outside s.toList = .outside

instance (s : String) : Decidable (ClosesLiterals s) := inferInstanceAs (Decidable (_ = _))

theorem lookupsIn_append (ss ts : List String) :
    lookupsIn (ss ++ ts) = lookupsIn ss + lookupsIn ts := by
  induction ss with
  | nil => rw [List.nil_append, lookupsIn, Nat.zero_add]
  | cons s ss ih => rw [List.cons_append, lookupsIn, lookupsIn, ih, Nat.add_assoc]

theorem lookupsIn_perm {ss ts : List String} (h : ss.Perm ts) : lookupsIn ss = lookupsIn ts := by
  induction h with
  | nil => rfl
  | cons s _ ih => rw [lookupsIn, lookupsIn, ih]
  | swap s t ss =>
    rw [lookupsIn, lookupsIn, lookupsIn, lookupsIn]
    omega
  | trans _ _ ihs iht => exact ihs.trans iht

theorem lookupsIn_eq_zero_iff {ss : List String} : lookupsIn ss = 0 ↔ ∀ s ∈ ss, lookups s = 0 := by
  induction ss with
  | nil => simp [lookupsIn]
  | cons s ss ih => rw [lookupsIn, List.forall_mem_cons, ← ih, Nat.add_eq_zero_iff]

/-! ## Cutting a text -/

theorem lookupsFrom_cons_of_not_mem {c : Char} (hc : c ∉ lookupWord) (p : Place)
    (rest : List Char) : lookupsFrom p (c :: rest) = lookupsFrom (p.next c) rest := by
  have hno : ¬ lookupWord <+: c :: rest := by
    intro h
    have hhead : lookupWord.head? = some c := by
      obtain ⟨t, ht⟩ := h
      exact congrArg List.head? ht
    exact hc (List.mem_of_head? hhead)
  rw [lookupsFrom, if_neg fun h => hno (List.isPrefixOf_iff_prefix.1 h.2), Nat.zero_add]

/-- Behind a character that is not in it the word cannot go on. -/
theorem prefix_append_cons_iff {w xs ys : List Char} {c : Char} (hc : c ∉ w) :
    w <+: xs ++ c :: ys ↔ w <+: xs := by
  induction w generalizing xs with
  | nil => simp
  | cons x w ih =>
    rw [List.mem_cons, not_or] at hc
    cases xs with
    | nil =>
      rw [List.nil_append, List.cons_prefix_cons]
      exact iff_of_false (fun h => hc.1 h.1.symm) (by simp)
    | cons y xs => rw [List.cons_append, List.cons_prefix_cons, List.cons_prefix_cons, ih hc.2]

theorem lookupsFrom_append_cons {c : Char} (hc : c ∉ lookupWord) (p : Place)
    (xs ys : List Char) :
    lookupsFrom p (xs ++ c :: ys) = lookupsFrom p xs + lookupsFrom (p.after xs) (c :: ys) := by
  induction xs generalizing p with
  | nil => rw [List.nil_append, Place.after_nil, lookupsFrom, Nat.zero_add]
  | cons x xs ih =>
    rw [List.cons_append, lookupsFrom, lookupsFrom, Place.after_cons, ih, ← List.cons_append,
      Nat.add_assoc]
    congr 2
    rw [List.isPrefixOf_iff_prefix, List.isPrefixOf_iff_prefix, prefix_append_cons_iff hc]

/-- Two texts between which the word cannot straddle: one of them is empty, or the
first ends or the second starts with a character that is not in it. -/
def Apart (xs ys : List Char) : Prop :=
  (∀ c ∈ xs.getLast?, c ∉ lookupWord) ∨ ∀ c ∈ ys.head?, c ∉ lookupWord

/-- The count is additive where the word cannot straddle the cut. -/
theorem lookupsFrom_append {xs ys : List Char} (h : Apart xs ys) (p : Place) :
    lookupsFrom p (xs ++ ys) = lookupsFrom p xs + lookupsFrom (p.after xs) ys := by
  rcases h with h | h
  · rcases List.eq_nil_or_concat xs with rfl | ⟨zs, c, hxs⟩
    · simp [lookupsFrom]
    · obtain rfl : xs = zs ++ [c] := by simpa using hxs
      have hc : c ∉ lookupWord := h c (by simp)
      rw [List.append_assoc, List.singleton_append, lookupsFrom_append_cons hc,
        lookupsFrom_append_cons hc, lookupsFrom_cons_of_not_mem hc,
        lookupsFrom_cons_of_not_mem hc, Place.after_append]
      simp [lookupsFrom]
  · cases ys with
    | nil => simp [lookupsFrom]
    | cons c ys => exact lookupsFrom_append_cons (h c rfl) p xs ys

/-! ## Layout -/

namespace Respaced

/-- A text opens as many lookups as before it was respaced. -/
theorem lookupsFrom_eq {held : Bool} {cs ds : List Char} (h : Respaced held cs ds) {p : Place}
    (hp : held = true → p ≠ .escaped) : lookupsFrom p cs = lookupsFrom p ds := by
  have hblank : ∀ {c : Char}, isBlank c = true → c ∉ lookupWord :=
    fun hc hmem => List.any_eq_false.1 any_isBlank_lookupWord _ hmem hc
  induction h generalizing p with
  | @tail held run hrun =>
    -- the run may be read from any place, so what is known of `p` is in the way
    clear hp
    induction run generalizing p with
    | nil => rfl
    | cons c run ih =>
      rw [List.forall_mem_cons] at hrun
      rw [lookupsFrom_cons_of_not_mem (hblank hrun.1)]
      exact ih hrun.2
  | @char held c cs ds hc h ih =>
    have hword : lookupWord <+: c :: cs ↔ lookupWord <+: c :: ds :=
      prefix_iff any_isBlank_lookupWord (.char hc h)
    rw [lookupsFrom, lookupsFrom, ih (by simp)]
    congr 2
    rw [List.isPrefixOf_iff_prefix, List.isPrefixOf_iff_prefix, hword]
  | blank hc hd _ _ ih =>
    rw [lookupsFrom_cons_of_not_mem (hblank hc), lookupsFrom_cons_of_not_mem (hblank hd),
      ih fun _ => Place.next_blank_ne_escaped hc, Place.next_blank hc, Place.next_blank hd]
  | drop hc _ ih =>
    -- the place survives the dropped blank, since no backslash stands in front of it
    rw [lookupsFrom_cons_of_not_mem (hblank hc), Place.next_blank hc, if_neg (hp rfl)]
    exact ih hp

/-- What stands in front of a character that is no blank is found again, and leaves the
reader at the same place. -/
theorem split {held : Bool} {pre cs ds : List Char} {c : Char} (hc : isBlank c = false)
    (h : Respaced held (pre ++ c :: cs) ds) {p : Place} (hp : held = true → p ≠ .escaped) :
    ∃ pre' es, ds = pre' ++ c :: es ∧ Respaced false cs es ∧ p.after pre' = p.after pre := by
  induction pre generalizing held ds p with
  | nil =>
    obtain ⟨es, rfl, hes⟩ := word (w := [c]) (by simp) (by simpa using hc) h
    exact ⟨[], es, rfl, hes, rfl⟩
  | cons x pre ih =>
    rw [List.cons_append] at h
    cases h with
    | tail hrun =>
      have := hrun c (by simp)
      rw [hc] at this
      simp at this
    | char hx h =>
      obtain ⟨pre', es, rfl, hes, hafter⟩ := ih h (p := p.next x) (by simp)
      exact ⟨x :: pre', es, rfl, hes, hafter⟩
    | @blank _ _ d _ _ hx hd _ h =>
      obtain ⟨pre', es, rfl, hes, hafter⟩ :=
        ih h (p := p.next x) fun _ => Place.next_blank_ne_escaped hx
      refine ⟨d :: pre', es, rfl, hes, ?_⟩
      rw [Place.after_cons, Place.after_cons, ← hafter, Place.next_blank hx, Place.next_blank hd]
    | drop hx h =>
      obtain ⟨pre', es, rfl, hes, hafter⟩ := ih h hp
      refine ⟨pre', es, rfl, hes, ?_⟩
      rw [Place.after_cons, Place.next_blank hx, if_neg (hp rfl), hafter]

end Respaced

/-- Normal layout opens as many lookups as the text did before. -/
theorem lookups_normalize (s : String) : lookups (normalize s) = lookups s := by
  unfold lookups normalize
  rw [String.toList_ofList]
  exact ((respaced_normalizeChars s.toList).lookupsFrom_eq fun _ => by simp).symm

/-! ## Quoted literals -/

theorem lookupsFrom_cons_of_ne_outside {p : Place} (hp : p ≠ .outside) (c : Char)
    (rest : List Char) : lookupsFrom p (c :: rest) = lookupsFrom (p.next c) rest := by
  rw [lookupsFrom, if_neg fun h => hp h.1, Nat.zero_add]

/-- A character of a literal is written behind a backslash, or is neither quote nor
backslash and written as it is. -/
theorem escapeChar_cases (c : Char) :
    (∃ d, escapeChar c = ['\\', d]) ∨ (escapeChar c = [c] ∧ c ≠ '\\' ∧ c ≠ '"') := by
  unfold escapeChar
  by_cases hslash : c = '\\'
  · rw [if_pos hslash]
    exact Or.inl ⟨_, rfl⟩
  · by_cases hquote : c = '"'
    · rw [if_neg hslash, if_pos hquote]
      exact Or.inl ⟨_, rfl⟩
    · rw [if_neg hslash, if_neg hquote]
      split
      · exact Or.inl ⟨_, rfl⟩
      · split
        · exact Or.inl ⟨_, rfl⟩
        · split
          · exact Or.inl ⟨_, rfl⟩
          · exact Or.inr ⟨rfl, hslash, hquote⟩

/-- The inside of a literal leaves the reader inside of it, and opens no lookup. -/
theorem read_inside_escape_append (cs rest : List Char) :
    Place.after .inside (escape cs ++ rest) = Place.after .inside rest ∧
      lookupsFrom .inside (escape cs ++ rest) = lookupsFrom .inside rest := by
  induction cs with
  | nil => exact ⟨rfl, rfl⟩
  | cons c cs ih =>
    rw [escape, List.flatMap_cons, List.append_assoc]
    rcases escapeChar_cases c with ⟨d, hd⟩ | ⟨hc, hslash, hquote⟩
    · -- the backslash and what it escapes are read together, back to the inside
      rw [hd]
      refine ⟨ih.1, ?_⟩
      show lookupsFrom .inside ('\\' :: d :: (escape cs ++ rest)) = _
      rw [lookupsFrom_cons_of_ne_outside (by simp), lookupsFrom_cons_of_ne_outside (by decide)]
      exact ih.2
    · have hnext : Place.next .inside c = .inside := by simp [Place.next, hslash, hquote]
      rw [hc]
      refine ⟨?_, ?_⟩
      · show Place.after (Place.next .inside c) (escape cs ++ rest) = _
        rw [hnext]
        exact ih.1
      · show lookupsFrom .inside (c :: (escape cs ++ rest)) = _
        rw [lookupsFrom_cons_of_ne_outside (by simp), hnext]
        exact ih.2

theorem toList_quote (s : String) : (quote s).toList = '"' :: (escape s.toList ++ ['"']) := by
  simp [quote, String.toList_append, String.toList_ofList]

/-! ## Texts put together -/

/-- A text is accounted for by its parts: if each of them closes the literals that it
opens, so does the text, and it opens the lookups that they open and no others. -/
def Tallies (s : String) (parts : List String) : Prop :=
  (∀ p ∈ parts, ClosesLiterals p) → ClosesLiterals s ∧ lookups s = lookupsIn parts

/-- The word does not go on across the start of a text. -/
def StartsOff (s : String) : Prop := s.toList.head?.any lookupWord.contains = false

/-- The word does not go on across the end of a text. -/
def EndsOff (s : String) : Prop := s.toList.getLast?.any lookupWord.contains = false

theorem any_lookupWord_eq_false_iff {o : Option Char} :
    o.any lookupWord.contains = false ↔ ∀ c ∈ o, c ∉ lookupWord := by
  rw [Option.any_eq_false]
  simp

instance (s : String) : Decidable (StartsOff s) := inferInstanceAs (Decidable (_ = false))

instance (s : String) : Decidable (EndsOff s) := inferInstanceAs (Decidable (_ = false))

/-- A text that closes its literals and opens no lookup. -/
def Inert (s : String) : Prop := ClosesLiterals s ∧ lookups s = 0

/-- A fixed text behind which any other may stand. -/
def Leads (s : String) : Prop := Inert s ∧ EndsOff s

/-- A fixed text in front of which any other may stand. -/
def Trails (s : String) : Prop := Inert s ∧ StartsOff s

/-- A fixed text between any two others. -/
def Separates (s : String) : Prop := s ≠ "" ∧ Leads s ∧ Trails s

instance (s : String) : Decidable (Inert s) := inferInstanceAs (Decidable (_ ∧ _))

instance (s : String) : Decidable (Leads s) := inferInstanceAs (Decidable (_ ∧ _))

instance (s : String) : Decidable (Trails s) := inferInstanceAs (Decidable (_ ∧ _))

instance (s : String) : Decidable (Separates s) := inferInstanceAs (Decidable (_ ∧ _))

theorem separates_comma : Separates ", " := by decide

theorem separates_space : Separates " " := by decide

theorem separates_open : Separates "(" := by decide

theorem separates_close : Separates ")" := by decide

/-- A quoted literal is inert, whatever it says. -/
theorem inert_quote (s : String) : Inert (quote s) := by
  obtain ⟨hafter, hcount⟩ := read_inside_escape_append s.toList ['"']
  unfold Inert ClosesLiterals lookups
  rw [toList_quote, lookupsFrom_cons_of_not_mem (by decide)]
  exact ⟨hafter, hcount⟩

/-- Characters that neither open a literal nor end the word that opens a lookup. -/
def isPlain (c : Char) : Bool := c != '"' && c != ':'

/-- A text without quotes and colons is inert. -/
theorem inert_of_plain {s : String} (h : s.toList.all isPlain = true) : Inert s := by
  have hplain : ∀ cs : List Char, cs.all isPlain = true →
      Place.after .outside cs = .outside ∧ lookupsFrom .outside cs = 0 := by
    intro cs hcs
    induction cs with
    | nil => exact ⟨rfl, rfl⟩
    | cons c cs ih =>
      -- the word has a colon, so it starts nowhere
      have hno : ¬ lookupWord.isPrefixOf (c :: cs) = true := by
        intro hp
        have hcolon : ':' ∈ c :: cs := (List.isPrefixOf_iff_prefix.1 hp).subset (by decide)
        exact absurd (List.all_eq_true.1 hcs ':' hcolon) (by decide)
      rw [List.all_cons, Bool.and_eq_true] at hcs
      have hquote : c ≠ '"' := by
        rintro rfl
        exact absurd hcs.1 (by decide)
      have hnext : Place.next .outside c = .outside := by simp [Place.next, hquote]
      rw [Place.after_cons, lookupsFrom, if_neg fun hp => hno hp.2, hnext, Nat.zero_add]
      exact ih hcs.2
  exact hplain s.toList h

theorem startsOff_append {s t : String} (hs : StartsOff s) (ht : StartsOff t) :
    StartsOff (s ++ t) := by
  unfold StartsOff at hs ht ⊢
  rw [String.toList_append]
  cases hxs : s.toList with
  | nil => exact ht
  | cons c rest =>
    rw [hxs] at hs
    exact hs

theorem startsOff_append_of_ne {s : String} (hs : StartsOff s) (hne : s ≠ "") (t : String) :
    StartsOff (s ++ t) := by
  unfold StartsOff at hs ⊢
  rw [String.toList_append]
  cases hxs : s.toList with
  | nil => exact absurd (String.toList_eq_nil_iff.1 hxs) hne
  | cons c rest =>
    rw [hxs] at hs
    exact hs

theorem endsOff_append {s t : String} (hs : EndsOff s) (ht : EndsOff t) : EndsOff (s ++ t) := by
  unfold EndsOff at hs ht ⊢
  rw [String.toList_append]
  rcases List.eq_nil_or_concat t.toList with hnil | ⟨cs, c, hcs⟩
  · rw [hnil, List.append_nil]
    exact hs
  · rw [hcs] at ht ⊢
    simpa using ht

theorem endsOff_append_of_ne {t : String} (ht : EndsOff t) (hne : t ≠ "") (s : String) :
    EndsOff (s ++ t) := by
  unfold EndsOff at ht ⊢
  rw [String.toList_append]
  rcases List.eq_nil_or_concat t.toList with hnil | ⟨cs, c, hcs⟩
  · exact absurd (String.toList_eq_nil_iff.1 hnil) hne
  · rw [hcs] at ht ⊢
    simpa using ht

theorem Separates.startsOff {s : String} (h : Separates s) (t : String) : StartsOff (s ++ t) :=
  startsOff_append_of_ne h.2.2.2 h.1 t

theorem Separates.endsOff {t : String} (h : Separates t) (s : String) : EndsOff (s ++ t) :=
  endsOff_append_of_ne h.2.1.2 h.1 s

namespace Tallies

variable {s t : String} {ps qs : List String}

/-- A text that is its own part. -/
theorem self (s : String) : Tallies s [s] :=
  fun h => ⟨h s (by simp), by rw [lookupsIn, lookupsIn, Nat.add_zero]⟩

/-- An inert text, without parts. -/
theorem inert (h : Inert s) : Tallies s [] :=
  fun _ => h

theorem quote (s : String) : Tallies (Text.quote s) [] :=
  inert (inert_quote s)

/-- The order of the parts does not matter. -/
theorem perm (hs : Tallies s ps) (h : ps.Perm qs) : Tallies s qs := by
  intro hall
  obtain ⟨hc, hn⟩ := hs fun p hp => hall p (h.mem_iff.1 hp)
  exact ⟨hc, hn.trans (lookupsIn_perm h)⟩

/-- A text behind another between which the word cannot straddle. -/
theorem append (hs : Tallies s ps) (ht : Tallies t qs) (h : Apart s.toList t.toList) :
    Tallies (s ++ t) (ps ++ qs) := by
  intro hall
  rw [List.forall_mem_append] at hall
  obtain ⟨hsc, hsn⟩ := hs hall.1
  obtain ⟨htc, htn⟩ := ht hall.2
  have hcount : lookups (s ++ t) = lookups s + lookups t := by
    unfold lookups
    rw [String.toList_append, lookupsFrom_append h, show Place.after .outside s.toList = _ from hsc]
  refine ⟨?_, ?_⟩
  · unfold ClosesLiterals at hsc htc ⊢
    rw [String.toList_append, Place.after_append, hsc, htc]
  · rw [hcount, hsn, htn, lookupsIn_append]

/-- A text and what starts apart from it. -/
theorem followed (hs : Tallies s ps) (ht : Tallies t qs) (h : StartsOff t) :
    Tallies (s ++ t) (ps ++ qs) :=
  hs.append ht (Or.inr (any_lookupWord_eq_false_iff.1 h))

/-- A text that ends apart from what follows. -/
theorem leading (hs : Tallies s ps) (ht : Tallies t qs) (h : EndsOff s) :
    Tallies (s ++ t) (ps ++ qs) :=
  hs.append ht (Or.inl (any_lookupWord_eq_false_iff.1 h))

/-- A text behind a fixed one. -/
theorem behind (ht : Tallies t qs) (h : Leads s) : Tallies (s ++ t) qs :=
  (inert h.1).leading ht h.2

/-- A text in front of a fixed one. -/
theorem before (hs : Tallies s ps) (h : Trails t) : Tallies (s ++ t) ps := by
  have := hs.followed (inert h.1) h.2
  rwa [List.append_nil] at this

/-- A text with fixed ones around it. -/
theorem within {u : String} (ht : Tallies t qs) (hl : Leads s) (hr : Trails u) :
    Tallies (s ++ t ++ u) qs :=
  (ht.behind hl).before hr

/-- Two texts with a fixed one between them. -/
theorem between {sep : String} (hs : Tallies s ps) (ht : Tallies t qs) (h : Separates sep) :
    Tallies (s ++ sep ++ t) (ps ++ qs) :=
  (hs.before h.2.2).leading ht (h.endsOff s)

end Tallies

/-- The texts of a list, each with its parts. -/
inductive TalliesAll : List String → List String → Prop where
  | nil : TalliesAll [] []
  | cons {s : String} {ss ps qs : List String} (h : Tallies s ps) (hs : TalliesAll ss qs) :
      TalliesAll (s :: ss) (ps ++ qs)

namespace TalliesAll

variable {ss ts ps qs : List String} {sep : String}

theorem map {α : Type} {f : α → String} {g : α → List String} (xs : List α)
    (h : ∀ x ∈ xs, Tallies (f x) (g x)) : TalliesAll (xs.map f) (xs.flatMap g) := by
  induction xs with
  | nil => exact .nil
  | cons x xs ih =>
    rw [List.forall_mem_cons] at h
    exact .cons h.1 (ih h.2)

/-- Texts joined by a separator, which is written as often as there are neighbours. -/
theorem joinWith (hs : TalliesAll ss ps) (hsep : Tallies sep qs) (hne : sep ≠ "")
    (hstart : StartsOff sep) (hend : EndsOff sep) :
    Tallies (join sep ss) (ps ++ (List.replicate (ss.length - 1) qs).flatten) := by
  induction hs with
  | nil => exact .inert (by decide : Inert "")
  | @cons s ss ps rs h hs ih =>
    cases hs with
    | nil => simpa using h
    | @cons t ss ps' rs' h' hs' =>
      have hrest := (h.followed hsep hstart).leading ih (endsOff_append_of_ne hend hne s)
      -- the parts of the separators are between the others here, and behind them there
      refine hrest.perm ?_
      have hcount : (s :: t :: ss).length - 1 = (t :: ss).length - 1 + 1 := by simp
      rw [hcount, List.replicate_succ, List.flatten_cons]
      simp only [List.append_assoc]
      refine List.Perm.append_left ps ?_
      simp only [← List.append_assoc]
      refine List.Perm.append_right _ ?_
      rw [List.append_assoc]
      exact List.perm_append_comm

/-- Texts joined by a fixed separator. -/
theorem join (hs : TalliesAll ss ps) (h : Separates sep) : Tallies (Text.join sep ss) ps := by
  have := hs.joinWith (.inert h.2.1.1) h.1 h.2.2.2 h.2.1.2
  simpa using this

end TalliesAll

end Dql.Text
