import Dql.Proofs.Text.Normalization
import Dql.Proofs.Render.Written
import Mathlib.Algebra.Group.Nat.Even
import Mathlib.Data.List.Induction

/-!
# Where the literal of a pattern ends

The pattern of a `regexp` stands between slashes. Its own slashes are written behind a
backslash, and nothing else in it is changed. What is written therefore always reads back
as the pattern if each `\/` is taken for a slash (`replaceSlashes_escapeSlashes`), but it is
not always a literal that ends where the pattern does: a backslash of the pattern takes the
character behind it along, and that may be the backslash which was put in front of a slash,
or the slash at the end.

`pattern_ends_iff` says for which patterns the literal ends in front of the flags, and on
the line that it starts on: those that `Delimitable` describes. They are told from the
number of backslashes in front of each slash and at the end. What carries this is a reader
that takes one character at a time (`openAfter`), whose state behind an escaped pattern is
known from the pattern alone (`openAfter_escapeSlashes`).
-/

namespace Dql

namespace Text

/-! ## Reading a literal character by character -/

/-- What is known of a literal behind some of its characters: nothing if it is closed in
them, else whether a backslash waits for the next. -/
def openAfter (close : Char) : Bool → List Char → Option Bool
  | waits, [] => some waits
  | true, _ :: rest => openAfter close false rest
  | false, c :: rest =>
    if c = '\\' then openAfter close true rest
    else if c = close then none
    else openAfter close false rest

theorem openAfter_append (close : Char) (waits : Bool) (xs ys : List Char) :
    openAfter close waits (xs ++ ys)
      = (openAfter close waits xs).bind fun w => openAfter close w ys := by
  induction xs generalizing waits with
  | nil => rfl
  | cons c xs ih =>
    cases waits with
    | true => exact ih false
    | false =>
      rw [List.cons_append, openAfter, openAfter]
      split
      · exact ih true
      · split
        · rfl
        · exact ih false

/-- What is split off behind some characters is split off with them. -/
theorem map_front_eq_some_iff (front : List Char) {xs ys : List Char}
    {x : Option (List Char × List Char)} :
    (x.map fun p => (front ++ p.1, p.2)) = some (front ++ xs, ys) ↔ x = some (xs, ys) := by
  constructor
  · intro h
    obtain ⟨p, rfl, hp⟩ := Option.map_eq_some_iff.1 h
    obtain ⟨hfront, hrest⟩ := Prod.mk.inj hp
    rw [← List.append_cancel_left hfront, ← hrest]
  · rintro rfl
    rfl

/-- A literal ends at a closing character exactly if it is open in front of it, and no
backslash waits there. -/
theorem splitLiteral_eq_some_iff {close : Char} (hclose : close ≠ '\\') (inside rest : List Char) :
    splitLiteral close (inside ++ close :: rest) = some (inside ++ [close], rest) ↔
      openAfter close false inside = some false := by
  induction hn : inside.length using Nat.strongRecOn generalizing inside with
  | _ n ih =>
    match inside with
    | [] =>
      rw [List.nil_append, splitLiteral_cons hclose, if_pos rfl]
      exact iff_of_true rfl rfl
    | c :: cs =>
      by_cases hc : c = '\\'
      · subst hc
        -- a backslash takes the next character along, so two are read at once
        match cs with
        | [] =>
          have hread : openAfter close false ['\\'] = some true := rfl
          rw [hread]
          refine iff_of_false ?_ (by simp)
          intro h
          obtain ⟨p, hp, hpair⟩ := Option.map_eq_some_iff.1 h
          obtain ⟨hchars, -⟩ := Prod.mk.inj hpair
          -- behind the closing character there would have to be nothing, but there is another
          have hnil : p.1 = [] := (List.cons.inj (List.cons.inj hchars).2).2
          have hlast := getLast?_splitLiteral hp
          rw [hnil] at hlast
          exact absurd hlast (by simp)
        | d :: more =>
          have hless : more.length < n := by
            rw [← hn, List.length_cons, List.length_cons]
            omega
          have hread : openAfter close false ('\\' :: d :: more) = openAfter close false more := rfl
          rw [hread, ← ih more.length hless more rfl]
          exact map_front_eq_some_iff ['\\', d]
      · rw [List.cons_append, splitLiteral_cons hc, openAfter, if_neg hc]
        by_cases heq : c = close
        · subst heq
          rw [if_pos rfl, if_pos rfl]
          refine iff_of_false ?_ (by simp)
          intro h
          -- it ends here already, and not behind what follows
          obtain ⟨hchars, -⟩ := Prod.mk.inj (Option.some.inj h)
          exact absurd (congrArg List.length hchars) (by simp)
        · have hless : cs.length < n := by
            rw [← hn, List.length_cons]
            omega
          rw [if_neg heq, if_neg heq, ← ih cs.length hless cs rfl]
          exact map_front_eq_some_iff [c]

end Text

namespace Render

open Text

/-! ## Patterns that end where they should -/

/-- How many backslashes stand at the end of a text. -/
def backslashesBehind (cs : List Char) : Nat := (cs.reverse.takeWhile (· == '\\')).length

theorem backslashesBehind_concat (cs : List Char) (c : Char) :
    backslashesBehind (cs ++ [c]) = if c = '\\' then backslashesBehind cs + 1 else 0 := by
  unfold backslashesBehind
  rw [List.reverse_append, List.reverse_singleton, List.singleton_append]
  split
  next h =>
    rw [List.takeWhile_cons_of_pos (by simpa using h), List.length_cons]
  next h =>
    rw [List.takeWhile_cons_of_neg (by simpa using h), List.length_nil]

/-- The backslashes in front of each slash escape each other, and not the one that is put
there. -/
def SlashesFree (p : List Char) : Prop :=
  ∀ before after, p = before ++ '/' :: after → Even (backslashesBehind before)

theorem slashesFree_nil : SlashesFree [] := by
  intro before after h
  exact absurd h (by simp)

theorem slashesFree_concat {p : List Char} {c : Char} :
    SlashesFree (p ++ [c]) ↔ SlashesFree p ∧ (c = '/' → Even (backslashesBehind p)) := by
  constructor
  · intro h
    refine ⟨fun before after hp => ?_, fun hc => ?_⟩
    · refine h before (after ++ [c]) ?_
      rw [hp, List.append_assoc, List.cons_append]
    · rw [hc] at h
      exact h p [] rfl
  · rintro ⟨hp, hc⟩ before after h
    -- the slash is the last character, or one of those in front
    rcases List.eq_nil_or_concat after with rfl | ⟨more, d, rfl⟩
    · obtain ⟨rfl, hlast⟩ := List.append_inj' h rfl
      exact hc (List.cons.inj hlast).1
    · rw [List.concat_eq_append, ← List.cons_append, ← List.append_assoc] at h
      exact hp before more (List.append_inj' h rfl).1

/-- A pattern whose literal ends in front of its flags, on the line that it starts on. -/
structure Delimitable (p : List Char) : Prop where
  /-- No slash loses the backslash that is put in front of it. -/
  slashes : SlashesFree p
  /-- No backslash is left that would take the closing slash along. -/
  last : Even (backslashesBehind p)
  /-- There is no line break. -/
  oneLine : '\n' ∉ p

/-! ## The escaped pattern -/

theorem escapeSlashes_concat (p : List Char) (c : Char) :
    escapeSlashes (p ++ [c]) = escapeSlashes p ++ if c = '/' then ['\\', '/'] else [c] := by
  unfold escapeSlashes
  rw [List.flatMap_append, List.flatMap_singleton]

/-- One more character of the pattern, where no backslash waits. -/
theorem openAfter_false (c : Char) :
    openAfter '/' false (if c = '/' then ['\\', '/'] else [c]) = some (c == '\\') := by
  by_cases hslash : c = '/'
  · rw [hslash]
    rfl
  · by_cases hback : c = '\\'
    · rw [hback]
      rfl
    · simp [openAfter, hslash, hback]

/-- One more character of the pattern, where a backslash waits: a slash loses its own to it. -/
theorem openAfter_true (c : Char) :
    openAfter '/' true (if c = '/' then ['\\', '/'] else [c])
      = if c = '/' then none else some false := by
  split <;> rfl

/-- **The state of a reader behind an escaped pattern.** The literal is still open exactly
if no slash loses its backslash, and a backslash waits if their number at the end is odd. -/
theorem openAfter_escapeSlashes (p : List Char) (waits : Bool) :
    openAfter '/' false (escapeSlashes p) = some waits ↔
      SlashesFree p ∧ (waits = false ↔ Even (backslashesBehind p)) := by
  induction p using List.reverseRecOn generalizing waits with
  | nil =>
    have hzero : Even (backslashesBehind []) := ⟨0, rfl⟩
    show some false = some waits ↔ _
    simp [slashesFree_nil, hzero, eq_comm]
  | append_singleton p c ih =>
    rw [escapeSlashes_concat, openAfter_append, slashesFree_concat, backslashesBehind_concat]
    by_cases hfree : SlashesFree p
    · by_cases heven : Even (backslashesBehind p)
      · have hstate : openAfter '/' false (escapeSlashes p) = some false :=
          (ih false).2 ⟨hfree, iff_of_true rfl heven⟩
        rw [hstate, Option.bind_some, openAfter_false]
        by_cases hback : c = '\\'
        · cases waits <;> simp [hback, hfree, heven, Nat.even_add_one]
        · cases waits <;> simp [hback, hfree, heven]
      · have hstate : openAfter '/' false (escapeSlashes p) = some true :=
          (ih true).2 ⟨hfree, iff_of_false (by simp) heven⟩
        rw [hstate, Option.bind_some, openAfter_true]
        by_cases hback : c = '\\'
        · cases waits <;> simp [hback, hfree, heven, Nat.even_add_one]
        · cases waits <;> simp [hback, hfree, heven]
    · -- a slash before has closed the literal
      have hstate : openAfter '/' false (escapeSlashes p) = none := by
        cases hread : openAfter '/' false (escapeSlashes p) with
        | none => rfl
        | some w => exact absurd ((ih w).1 hread).1 hfree
      rw [hstate, Option.bind_none]
      simp [hfree]

/-- There is a line break in an escaped pattern exactly if there is one in the pattern. -/
theorem mem_escapeSlashes {p : List Char} : '\n' ∈ escapeSlashes p ↔ '\n' ∈ p := by
  unfold escapeSlashes
  rw [List.mem_flatMap]
  constructor
  · rintro ⟨c, hc, hmem⟩
    split at hmem
    · exact absurd hmem (by decide)
    · rwa [List.mem_singleton.1 hmem]
  · intro h
    exact ⟨'\n', h, by decide⟩

/-- A text with each `\/` replaced by a slash, from left to right. -/
def replaceSlashes : List Char → List Char
  | '\\' :: '/' :: rest => '/' :: replaceSlashes rest
  | c :: rest => c :: replaceSlashes rest
  | [] => []

theorem head?_escapeSlashes (p : List Char) : (escapeSlashes p).head? ≠ some '/' := by
  cases p with
  | nil => simp [escapeSlashes]
  | cons c p =>
    unfold escapeSlashes
    rw [List.flatMap_cons]
    split
    · simp
    next hc => simpa using hc

/-- **An escaped pattern reads back as the pattern.** -/
theorem replaceSlashes_escapeSlashes (p : List Char) : replaceSlashes (escapeSlashes p) = p := by
  induction p with
  | nil => rfl
  | cons c p ih =>
    have hcons : escapeSlashes (c :: p)
        = (if c = '/' then ['\\', '/'] else [c]) ++ escapeSlashes p := List.flatMap_cons
    rw [hcons]
    split
    next hc =>
      rw [hc]
      show '/' :: replaceSlashes (escapeSlashes p) = _
      rw [ih]
    next =>
      -- no slash stands behind a backslash of the pattern that is not its own
      rw [List.singleton_append, replaceSlashes, ih]
      intro rest _ hrest
      exact absurd (congrArg List.head? hrest) (head?_escapeSlashes p)

/-! ## The arguments of a `regexp` -/

/-- **Where the literal of a pattern ends.** What is written for a `regexp` with arguments
is its escaped pattern between slashes, and the flags. The pattern reads back from it; and
the literal that starts at the first slash ends at the one in front of the flags, with no
line break in it, exactly if the pattern is delimitable. -/
theorem pattern_ends_iff (c : Call) (first : Argument) (rest : List Argument) :
    ∃ body flags : String,
      arguments? { c with name := "regexp", arguments := first :: rest }
          = some ("/" ++ body ++ "/" ++ flags) ∧
        flags = join "" (rest.map (·.value)) ∧
        replaceSlashes body.toList = first.value.toList ∧
        (splitLiteral '/' (body ++ "/" ++ flags).toList
              = some ((body ++ "/").toList, flags.toList) ∧
          '\n' ∉ body.toList ↔ Delimitable first.value.toList) := by
  refine ⟨String.ofList (escapeSlashes first.value.toList), _,
    congrArg some (Phrase.written_own _), rfl, ?_, ?_⟩
  · rw [String.toList_ofList, replaceSlashes_escapeSlashes]
  · have hslash : "/".toList = ['/'] := rfl
    rw [String.toList_append, String.toList_append, String.toList_ofList, hslash,
      List.append_assoc, List.singleton_append, splitLiteral_eq_some_iff (by decide),
      openAfter_escapeSlashes, mem_escapeSlashes]
    constructor
    · rintro ⟨⟨hslashes, hlast⟩, hline⟩
      exact ⟨hslashes, hlast.1 rfl, hline⟩
    · rintro ⟨hslashes, hlast, hline⟩
      exact ⟨⟨hslashes, iff_of_true rfl hlast⟩, hline⟩

/-! ## A pattern that ends early -/

/-- A match for a slash that is escaped already, and behind it two blanks. -/
def escapedSlash : Call where
  name := "regexp"
  attr := "name"
  arguments := [{ value := "\\/  b" }]

/-- A block with this match in a filter. -/
def escapedSlashBlock : Block where
  queries := [{
    clause := {
      aliasName := "me", call := some { name := "uid" }, ids := [1],
      filter := some { call := some escapedSlash } } }]

/-- The lines of this block, with the pattern as it is written. -/
def escapedSlashLines (body : String) : List String :=
  ["\x7b", "    me(func: uid(0x01)) @filter(regexp(name, /" ++ body ++ "/)) \x7b", "    \x7d",
    "\x7d"]

/-- The literal ends behind the slash of the pattern. What is left of it is no literal to
the layout, which takes one of the two blanks away: the text asks for another pattern. -/
theorem escapedSlash_ends_early :
    arguments? escapedSlash = some "/\\\\/  b/" ∧
      splitLiteral '/' "\\\\/  b/".toList = some ("\\\\/".toList, "  b/".toList) ∧
      escapedSlashBlock.render = .ok (join "\n" (escapedSlashLines "\\\\/ b")) ∧
      replaceSlashes "\\\\/ b".toList = "\\/ b".toList := by
  have hrender : escapedSlashBlock.render
      = .ok (normalize (join "\n" (escapedSlashLines "\\\\/  b"))) := rfl
  have hlayout : normalize (join "\n" (escapedSlashLines "\\\\/  b"))
      = join "\n" (escapedSlashLines "\\\\/ b") := by decide +kernel
  exact ⟨rfl, rfl, hrender.trans (congrArg Except.ok hlayout), rfl⟩

end Render

end Dql
