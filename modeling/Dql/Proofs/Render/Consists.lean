import Dql.Proofs.Render.Contents
import Dql.Proofs.Render.Written
import Dql.Proofs.Text.Lookup
import Dql.Proofs.Uid

/-!
# What a phrase consists of

The strings, literals, names and reads by value of a phrase are read off its pieces, one after
the other. A phrase consists of given contents (`Phrase.Consists`) if these are what it has, and
if beside it opens no lookups but those that its strings open (`Text.Tallies`). All that is said
of the text of a block as a whole follows from this one relation: that it is one line for each
line of the block, which literals are found in it, which predicates it names, and what it reads
by value.

The combinators below follow the ways in which phrases are put together: a phrase behind another
at a character that is not in the word that opens a lookup, words and signs around a phrase, and
lists of phrases with a separator.
-/

namespace Dql

open Text

/-! ## Reads by value -/

/-- What is read is either one of the names that are known or unchecked, and what is unchecked is
read. -/
def Accounted (reads known unchecked : List String) : Prop :=
  ∀ s, s ∈ reads ∨ s ∈ unchecked → s ∈ reads ∧ (s ∈ known ∨ s ∈ unchecked)

namespace Accounted

variable {rs vs us rs' vs' us' : List String}

theorem nil : Accounted [] vs [] := fun _ h => absurd h (by simp)

theorem append (h : Accounted rs vs us) (h' : Accounted rs' vs' us') :
    Accounted (rs ++ rs') (vs ++ vs') (us ++ us') := by
  intro s hs
  simp only [List.mem_append] at hs ⊢
  rcases hs with (hr | hr) | hu | hu
  · exact ⟨Or.inl hr, (h s (Or.inl hr)).2.imp Or.inl Or.inl⟩
  · exact ⟨Or.inr hr, (h' s (Or.inl hr)).2.imp Or.inr Or.inr⟩
  · exact ⟨Or.inl (h s (Or.inr hu)).1, Or.inr (Or.inl hu)⟩
  · exact ⟨Or.inr (h' s (Or.inr hu)).1, Or.inr (Or.inr hu)⟩

theorem mono (h : Accounted rs vs us) (hvs : ∀ n ∈ vs, n ∈ vs') : Accounted rs vs' us :=
  fun s hs => (h s hs).imp_right (Or.imp_left (hvs s))

theorem flatMap {α : Type} {f v u : α → List String} {xs : List α}
    (h : ∀ x ∈ xs, Accounted (f x) (v x) (u x)) :
    Accounted (xs.flatMap f) (xs.flatMap v) (xs.flatMap u) := by
  induction xs with
  | nil => exact .nil
  | cons x xs ih =>
    rw [List.forall_mem_cons] at h
    exact h.1.append (ih h.2)

end Accounted

/-! ## What stands in a phrase -/

namespace Name

/-- The name itself. -/
def name : Name → String
  | reference name | ordered name _ | predicate _ name => name

/-- The name as it is written, without angle brackets. -/
def word : Name → String
  | ordered name kind => Render.variableOf name kind
  | reference name | predicate _ name => name

/-- The name of a variable. -/
def variableName? : Name → Option String
  | reference name | ordered name _ => some name
  | predicate _ _ => none

/-- The name of a predicate with its place. -/
def predicate? : Name → Option (Piece.Place × String)
  | reference _ | ordered _ _ => none
  | predicate place name => some (place, name)

end Name

namespace Term

/-- The strings of a term that are written without quotes. -/
def strings : Term → List String
  | own s => [s]
  | literal _ | identifier _ => []
  | name n => [n.word]
  | values ns => ns.map Name.word

/-- The literal that a term is, if it is one. -/
def literals : Term → List String
  | literal s => [s]
  | own _ | identifier _ | name _ | values _ => []

/-- The names of a term. -/
def names : Term → List Name
  | name n => [n]
  | values ns => ns
  | own _ | literal _ | identifier _ => []

/-- The names that a term reads by value. -/
def reads : Term → List String
  | values ns => ns.map Name.name
  | own _ | literal _ | identifier _ | name _ => []

/-- What a term says without quotes, in which the brackets behind the word that reads values make
a name of every string. -/
def readsInside : Term → List String
  | own s => [s]
  | name n => [n.name]
  | values ns => ns.map Name.name
  | literal _ | identifier _ => []

end Term

namespace Piece

/-- The terms of a piece. The predicate that is applied to others is one of them. -/
def terms : Piece → List Term
  | mark _ | lineBreak => []
  | term t => [t]
  | applied head arguments => .name head :: arguments

/-- The names that a piece reads by value: a predicate that is called like the word that reads
values is that word. -/
def reads : Piece → List String
  | mark _ | lineBreak => []
  | term t => t.reads
  | applied head arguments =>
    arguments.flatMap (if head.name = "val" then Term.readsInside else Term.reads)

end Piece

namespace Phrase

/-- The terms of a phrase. -/
def allTerms (t : Phrase) : List Term := t.flatMap Piece.terms

/-- The strings of a phrase that are written without quotes. -/
def strings (t : Phrase) : List String := t.allTerms.flatMap Term.strings

/-- The literals of a phrase. -/
def literals (t : Phrase) : List String := t.allTerms.flatMap Term.literals

/-- The names of a phrase. -/
def names (t : Phrase) : List Name := t.allTerms.flatMap Term.names

/-- The predicates that a phrase names. -/
def predicates (t : Phrase) : List (Piece.Place × String) := t.names.filterMap Name.predicate?

/-- The variables that a phrase names. -/
def variableNames (t : Phrase) : List String := t.names.filterMap Name.variableName?

/-- The names that a phrase reads by value. -/
def reads (t : Phrase) : List String := t.flatMap Piece.reads

section Append

variable (s t : Phrase)

theorem allTerms_append : (s ++ t).allTerms = s.allTerms ++ t.allTerms := List.flatMap_append

theorem strings_append : (s ++ t).strings = s.strings ++ t.strings := by
  rw [strings, allTerms_append, List.flatMap_append]
  rfl

theorem literals_append : (s ++ t).literals = s.literals ++ t.literals := by
  rw [literals, allTerms_append, List.flatMap_append]
  rfl

theorem names_append : (s ++ t).names = s.names ++ t.names := by
  rw [names, allTerms_append, List.flatMap_append]
  rfl

theorem predicates_append : (s ++ t).predicates = s.predicates ++ t.predicates := by
  rw [predicates, names_append, List.filterMap_append]
  rfl

theorem variableNames_append : (s ++ t).variableNames = s.variableNames ++ t.variableNames := by
  rw [variableNames, names_append, List.filterMap_append]
  rfl

theorem reads_append : (s ++ t).reads = s.reads ++ t.reads := List.flatMap_append

end Append

/-! ## The relation -/

/-- A phrase has the contents, as far as its pieces say it. -/
structure Holds (t : Phrase) (c : Contents) : Prop where
  own : ∀ s ∈ t.strings, s ∈ c.own
  literals : t.literals = c.literals
  predicates : t.predicates = c.predicates
  variableNames : ∀ n ∈ t.variableNames, n ∈ c.variableNames
  reads : Accounted t.reads c.variableNames c.unchecked

/-- A phrase within one line consists of the contents: it holds them, and its text is accounted for
by its strings. -/
structure Consists (t : Phrase) (c : Contents) : Prop extends Holds t c where
  tallies : Tallies t.written c.own
  oneLine : .lineBreak ∉ t

namespace Holds

variable {s t : Phrase} {c d : Contents}

theorem append (hs : s.Holds c) (ht : t.Holds d) : (s ++ t).Holds (c ++ d) where
  own := by
    intro x hx
    rw [strings_append] at hx
    exact List.mem_append.2 ((List.mem_append.1 hx).imp (hs.own x) (ht.own x))
  literals := by rw [literals_append, hs.literals, ht.literals, Contents.literals_append]
  predicates := by rw [predicates_append, hs.predicates, ht.predicates, Contents.predicates_append]
  variableNames := by
    intro n hn
    rw [variableNames_append] at hn
    exact List.mem_append.2 ((List.mem_append.1 hn).imp (hs.variableNames n) (ht.variableNames n))
  reads := by
    rw [reads_append]
    exact hs.reads.append ht.reads

/-- More strings may be held, and more names may be those of variables. -/
theorem mono (h : t.Holds c) (hown : ∀ s ∈ c.own, s ∈ d.own) (hliterals : c.literals = d.literals)
    (hpredicates : c.predicates = d.predicates)
    (hvariables : ∀ n ∈ c.variableNames, n ∈ d.variableNames)
    (hunchecked : c.unchecked = d.unchecked) : t.Holds d where
  own x hx := hown x (h.own x hx)
  literals := h.literals.trans hliterals
  predicates := h.predicates.trans hpredicates
  variableNames n hn := hvariables n (h.variableNames n hn)
  reads := hunchecked ▸ h.reads.mono hvariables

theorem nil : Holds [] {} where
  own _ h := absurd h List.not_mem_nil
  literals := rfl
  predicates := rfl
  variableNames _ h := absurd h List.not_mem_nil
  reads := .nil

end Holds

namespace Consists

variable {s t u : Phrase} {c d : Contents}

theorem of_eq (h : t.Consists c) (heq : c = d) : t.Consists d := heq ▸ h

/-- The order of the strings does not matter, and more names may be those of variables. -/
theorem mono (h : t.Consists c) (hown : c.own.Perm d.own) (hliterals : c.literals = d.literals)
    (hpredicates : c.predicates = d.predicates)
    (hvariables : ∀ n ∈ c.variableNames, n ∈ d.variableNames)
    (hunchecked : c.unchecked = d.unchecked) : t.Consists d where
  toHolds := h.toHolds.mono (fun _ => hown.mem_iff.1) hliterals hpredicates hvariables hunchecked
  tallies := h.tallies.perm hown
  oneLine := h.oneLine

/-- More names may be those of variables. -/
theorem within_names (h : t.Consists c) {names : List String}
    (hnames : ∀ n ∈ c.variableNames, n ∈ names) : t.Consists { c with variableNames := names } :=
  h.mono (.refl _) rfl rfl hnames rfl

theorem append (hs : s.Consists c) (ht : t.Consists d)
    (h : Apart s.written.toList t.written.toList) : (s ++ t).Consists (c ++ d) where
  toHolds := hs.toHolds.append ht.toHolds
  tallies := by
    rw [written_append]
    exact hs.tallies.append ht.tallies h
  oneLine := fun hmem => (List.mem_append.1 hmem).elim hs.oneLine ht.oneLine

/-- A phrase and what starts apart from it. -/
theorem followed (hs : s.Consists c) (ht : t.Consists d) (h : StartsOff t.written) :
    (s ++ t).Consists (c ++ d) :=
  hs.append ht (Or.inr (any_lookupWord_eq_false_iff.1 h))

/-- A phrase that ends apart from what follows. -/
theorem leading (hs : s.Consists c) (ht : t.Consists d) (h : EndsOff s.written) :
    (s ++ t).Consists (c ++ d) :=
  hs.append ht (Or.inl (any_lookupWord_eq_false_iff.1 h))

/-- Nothing consists of nothing, and of strings without characters. -/
theorem nil : Consists [] {} where
  toHolds := .nil
  tallies := .inert (by decide)
  oneLine := List.not_mem_nil

theorem nil_empty : Consists [] { own := [""] } where
  toHolds := { Holds.nil with own := fun _ h => absurd h List.not_mem_nil }
  tallies := .self ""
  oneLine := List.not_mem_nil

/-- A word or a sign of the language. -/
theorem mark {w : String} {plain : w.toList.all Mark.admits = true} (h : Inert w) :
    (Phrase.mark w plain).Consists {} where
  toHolds := { Holds.nil with }
  tallies := by
    rw [written_mark]
    exact .inert h
  oneLine := by simp [Phrase.mark]

section Marks

variable {w v : String} {p : w.toList.all Mark.admits = true}

/-- A phrase behind a word or a sign. -/
theorem behind (ht : t.Consists c) (h : Leads w) : (Phrase.mark w p ++ t).Consists c :=
  (mark h.1).leading ht (by rw [written_mark]; exact h.2)

/-- A phrase in front of a word or a sign. -/
theorem before (ht : t.Consists c) (h : Trails w) : (t ++ Phrase.mark w p).Consists c :=
  (ht.followed (mark h.1) (by rw [written_mark]; exact h.2)).of_eq c.append_empty

/-- A phrase with words or signs around it. -/
theorem within {hv : v.toList.all Mark.admits = true} (ht : t.Consists c) (hl : Leads w)
    (hr : Trails v) : (Phrase.mark w p ++ t ++ Phrase.mark v hv).Consists c :=
  (ht.behind hl).before hr

/-- Two phrases with a word or a sign between them. -/
theorem between (hs : s.Consists c) (ht : t.Consists d) (h : Separates w) :
    (s ++ Phrase.mark w p ++ t).Consists (c ++ d) := by
  refine (hs.before h.2.2).leading ht ?_
  rw [written_append, written_mark]
  exact h.endsOff _

end Marks

/-- A phrase in brackets. -/
theorem inBrackets (ht : t.Consists c) :
    (Phrase.mark "(" ++ t ++ Phrase.mark ")").Consists c ∧
      StartsOff (Phrase.mark "(" ++ t ++ Phrase.mark ")").written := by
  refine ⟨ht.within separates_open.2.1 separates_close.2.2, ?_⟩
  rw [written_append, written_append, written_mark, String.append_assoc]
  exact separates_open.startsOff _

end Consists

/-! ## Lists of phrases -/

/-- The phrases of a list, each with what it consists of. -/
inductive ConsistsAll : List Phrase → Contents → Prop where
  | nil : ConsistsAll [] {}
  | cons {t : Phrase} {ts : List Phrase} {c d : Contents} (h : t.Consists c)
      (hs : ConsistsAll ts d) : ConsistsAll (t :: ts) (c ++ d)

namespace ConsistsAll

variable {t sep : Phrase} {ss ts : List Phrase} {c d : Contents}

theorem of_eq (h : ConsistsAll ts c) (heq : c = d) : ConsistsAll ts d := heq ▸ h

theorem append (hs : ConsistsAll ss c) (ht : ConsistsAll ts d) :
    ConsistsAll (ss ++ ts) (c ++ d) := by
  induction hs with
  | nil => exact ht
  | cons h _ ih =>
    rw [Contents.append_assoc]
    exact .cons h ih

theorem map {α : Type} {f : α → Phrase} {g : α → Contents} (xs : List α)
    (h : ∀ x ∈ xs, (f x).Consists (g x)) : ConsistsAll (xs.map f) (.ofEach xs g) := by
  induction xs with
  | nil => exact .nil
  | cons x xs ih =>
    rw [List.forall_mem_cons] at h
    exact .cons h.1 (ih h.2)

theorem singleton (h : t.Consists c) : ConsistsAll [t] c :=
  (cons h nil).of_eq c.append_empty

theorem tallies (h : ConsistsAll ts c) : TalliesAll (ts.map written) c.own := by
  induction h with
  | nil => exact .nil
  | cons h _ ih => exact .cons h.tallies ih

theorem eq_empty (h : ConsistsAll [] c) : c = {} := by
  cases h
  rfl

theorem of_singleton (h : ConsistsAll [t] c) : t.Consists c := by
  cases h with
  | cons h hnil =>
    rw [hnil.eq_empty, Contents.append_empty]
    exact h

/-- Phrases put together hold what each of them does, and what the separators do. -/
theorem holds_joined {qs : List String} (hs : ConsistsAll ts c) (hsep : sep.Holds { own := qs }) :
    (joined sep ts).Holds
      { c with own := c.own ++ (List.replicate (ts.length - 1) qs).flatten } := by
  induction hs with
  | nil => exact .nil
  | @cons t ts c d h hs ih =>
    cases hs with
    | nil => exact h.toHolds.mono (by simp) (by simp) (by simp) (by simp) (by simp)
    | @cons u ts c' d' h' hs' =>
      refine ((h.toHolds.append hsep).append ih).mono ?_ (by simp) (by simp) (by simp) (by simp)
      simp only [Contents.own_append, List.mem_append, List.length_cons, Nat.add_sub_cancel,
        List.replicate_succ, List.flatten_cons]
      grind

/-- No line breaks, if there are none in the phrases nor between them. -/
theorem lineBreak_not_mem (hs : ConsistsAll ts c) (hsep : .lineBreak ∉ sep) :
    .lineBreak ∉ joined sep ts := by
  induction hs with
  | nil => exact List.not_mem_nil
  | cons h hs ih =>
    cases hs with
    | nil => exact h.oneLine
    | cons h' hs' =>
      rw [joined, List.mem_append, List.mem_append, not_or, not_or]
      exact ⟨⟨h.oneLine, hsep⟩, ih⟩

/-- Phrases with a word or a sign in front of each. -/
theorem behindEach {w : String} {p : w.toList.all Mark.admits = true} (hs : ConsistsAll ts c)
    (h : Leads w) : ConsistsAll (ts.map (mark w p ++ ·)) c := by
  induction hs with
  | nil => exact .nil
  | cons ht _ ih => exact .cons (ht.behind h) ih

/-- Phrases joined by a separator, which is written as often as there are neighbours. -/
theorem joinWith {qs : List String} (hs : ConsistsAll ts c) (hsep : sep.Consists { own := qs })
    (hne : sep.written ≠ "") (hstart : StartsOff sep.written) (hend : EndsOff sep.written) :
    (joined sep ts).Consists
      { c with own := c.own ++ (List.replicate (ts.length - 1) qs).flatten } where
  toHolds := hs.holds_joined hsep.toHolds
  tallies := by
    have hjoin := hs.tallies.joinWith hsep.tallies hne hstart hend
    rwa [List.length_map, ← written_joined] at hjoin
  oneLine := hs.lineBreak_not_mem hsep.oneLine

/-- Phrases joined by a word or a sign. -/
theorem join {w : String} {hw : w.toList.all Mark.admits = true} (hs : ConsistsAll ts c)
    (h : Separates w) : (joined (Phrase.mark w hw) ts).Consists c := by
  have hmark : (Phrase.mark w hw).Consists { own := [] } := .mark h.2.1.1
  have hjoined := hs.joinWith hmark (by rw [written_mark]; exact h.1)
    (by rw [written_mark]; exact h.2.2.2) (by rw [written_mark]; exact h.2.1.2)
  exact hjoined.of_eq (by simp)

/-- Phrases with commas between them. -/
theorem listed (hs : ConsistsAll ts c) : (listed ts).Consists c := hs.join separates_comma

/-- Phrases one behind the other, each of which starts apart from what is in front. -/
theorem concat (hs : ConsistsAll ts c) (hstart : ∀ t ∈ ts, StartsOff t.written) :
    (joined [] ts).Consists c ∧ StartsOff (joined [] ts).written := by
  induction hs with
  | nil => exact ⟨.nil, by decide⟩
  | @cons t ts c d h hs ih =>
    rw [List.forall_mem_cons] at hstart
    obtain ⟨hrest, hoff⟩ := ih hstart.2
    cases hs with
    | nil => exact ⟨h.of_eq c.append_empty.symm, hstart.1⟩
    | @cons u ts c' d' h' hs' =>
      rw [joined, List.append_nil]
      refine ⟨h.followed hrest hoff, ?_⟩
      rw [written_append]
      exact startsOff_append hstart.1 hoff

end ConsistsAll

end Phrase

/-! ## Terms -/

theorem Uid.inert_format (u : Uid) : Inert u.format := by
  have hall : characters.all isPlain = true := by decide
  exact inert_of_plain (List.all_eq_true.2 fun c hc => List.all_eq_true.1 hall c (mem_format hc))

namespace Name

theorem tallies_text (n : Name) : Tallies (n.text Uri.isAbsolute) [n.word] := by
  cases n with
  | reference name => exact .self name
  | ordered name kind => exact .self _
  | predicate place name =>
    cases place with
    | subject =>
      show Tallies (bracketed Uri.isAbsolute name) [name]
      unfold bracketed
      split
      · exact (Tallies.self name).within (by decide) (by decide)
      · exact .self name
    | applied | ordering | grouping => exact .self name

/-- The names of a list are those of variables and those of predicates. -/
theorem mem_map_name_iff {ns : List Name} {s : String} : s ∈ ns.map name ↔
    s ∈ ns.filterMap variableName? ∨ s ∈ (ns.filterMap predicate?).map (·.2) := by
  induction ns with
  | nil => simp
  | cons n ns ih =>
    cases n with
    | reference name => simp [variableName?, predicate?, Name.name, ih, or_assoc]
    | ordered name kind => simp [variableName?, predicate?, Name.name, ih, or_assoc]
    | predicate place name =>
      simp only [List.map_cons, List.mem_cons, ih, Name.name, variableName?, predicate?,
        List.filterMap_cons]
      exact or_left_comm

end Name

namespace Term

/-- The names of predicates that a term reads by value. -/
def unchecked : Term → List String
  | values ns => (ns.filterMap Name.predicate?).map (·.2)
  | own _ | literal _ | identifier _ | name _ => []

/-- What a term says without quotes beside the names of variables. -/
def uncheckedInside : Term → List String
  | own s => [s]
  | name n => (n.predicate?.map (·.2)).toList
  | values ns => (ns.filterMap Name.predicate?).map (·.2)
  | literal _ | identifier _ => []

/-- The variables of a term. -/
def variableNames (t : Term) : List String := t.names.filterMap Name.variableName?

theorem accounted_reads (t : Term) : Accounted t.reads t.variableNames t.unchecked := by
  intro s h
  cases t with
  | values ns =>
    have hnames : s ∈ ns.map Name.name ↔ s ∈ ns.filterMap Name.variableName? ∨
        s ∈ (ns.filterMap Name.predicate?).map (·.2) := Name.mem_map_name_iff
    exact ⟨h.elim id fun hu => hnames.2 (Or.inr hu), h.elim hnames.1 Or.inr⟩
  | own | literal | identifier | name => exact absurd h (by simp [reads, unchecked])

theorem accounted_readsInside (t : Term) :
    Accounted t.readsInside t.variableNames t.uncheckedInside := by
  intro s h
  cases t with
  | values ns =>
    have hnames : s ∈ ns.map Name.name ↔ s ∈ ns.filterMap Name.variableName? ∨
        s ∈ (ns.filterMap Name.predicate?).map (·.2) := Name.mem_map_name_iff
    exact ⟨h.elim id fun hu => hnames.2 (Or.inr hu), h.elim hnames.1 Or.inr⟩
  | name n =>
    cases n with
    | predicate place name =>
      have hs : s ∈ [name] := h.elim id id
      exact ⟨hs, Or.inr hs⟩
    | reference name | ordered name kind =>
      have hs : s ∈ [name] := h.elim id fun hu => absurd hu List.not_mem_nil
      exact ⟨hs, Or.inl hs⟩
  | own t =>
    have hs : s ∈ [t] := h.elim id id
    exact ⟨hs, Or.inr hs⟩
  | literal | identifier => exact absurd h (by simp [readsInside, uncheckedInside])

/-- What a term consists of. -/
def contents (t : Term) : Contents where
  own := t.strings
  literals := t.literals
  predicates := t.names.filterMap Name.predicate?
  variableNames := t.variableNames
  unchecked := t.unchecked

theorem tallies_text (t : Term) : Tallies (t.text Uri.isAbsolute) t.strings := by
  cases t with
  | own s => exact .self s
  | literal s => exact .quote s
  | identifier uid => exact .inert uid.inert_format
  | name n => exact n.tallies_text
  | values ns =>
    have hall := TalliesAll.map (f := Name.text Uri.isAbsolute) (g := fun n => [n.word]) ns
      fun n _ => n.tallies_text
    rw [← List.map_eq_flatMap] at hall
    exact (hall.join separates_comma).within (by decide) (by decide)

end Term

namespace Phrase

theorem consists_term (t : Term) : Consists [.term t] t.contents where
  own := by simp [strings, allTerms, Piece.terms, Term.contents]
  literals := by simp [literals, allTerms, Piece.terms, Term.contents]
  predicates := by simp [predicates, names, allTerms, Piece.terms, Term.contents]
  variableNames := by
    simp [variableNames, names, allTerms, Piece.terms, Term.contents, Term.variableNames]
  reads := by
    rw [reads, List.flatMap_singleton]
    exact t.accounted_reads
  tallies := by
    rw [written_singleton]
    exact t.tallies_text
  oneLine := by simp

/-- Terms with commas between them consist of what the terms do. -/
theorem consists_terms (ts : List Term) : (terms ts).Consists (.ofEach ts Term.contents) :=
  (ConsistsAll.map ts fun t _ => consists_term t).listed

/-- What a predicate consists of that is applied to terms. -/
def appliedContents (name : String) (ts : List Term) : Contents :=
  let inside := Contents.ofEach ts Term.contents
  { inside with
    own := name :: inside.own
    predicates := (.applied, name) :: inside.predicates
    unchecked := if name = "val" then ts.flatMap Term.uncheckedInside else inside.unchecked }

theorem consists_applied (name : String) (ts : List Term) :
    Consists [.applied (.predicate .applied name) ts] (appliedContents name ts) := by
  have hterms : allTerms [.applied (.predicate .applied name) ts] =
      .name (.predicate .applied name) :: ts := List.append_nil _
  have hinside := (consists_terms ts).tallies
  rw [written_terms] at hinside
  refine { own := ?_, literals := ?_, predicates := ?_, variableNames := ?_, reads := ?_,
           tallies := ?_, oneLine := by simp }
  · rw [strings, hterms]
    exact fun s hs => hs
  · rw [literals, hterms]
    rfl
  · rw [predicates, names, hterms, List.flatMap_cons, List.filterMap_append,
      List.filterMap_flatMap]
    rfl
  · rw [variableNames, names, hterms, List.flatMap_cons, List.filterMap_append,
      List.filterMap_flatMap]
    exact fun s hs => hs
  · unfold appliedContents
    rw [reads, List.flatMap_singleton]
    show Accounted (ts.flatMap (if name = "val" then _ else _)) _ _
    split
    · exact .flatMap fun t _ => t.accounted_readsInside
    · exact .flatMap fun t _ => t.accounted_reads
  · rw [Render.written_applied]
    exact ((Tallies.self name).between hinside separates_open).before separates_close.2.2

end Phrase

end Dql
