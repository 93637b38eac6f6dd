import Dql.Proofs.Render.Block

/-!
# Which attributes are written as URIs

The functions called `…Predicates` list the predicates that a block names, in the order of the
text and each with its place: the attribute of a node, of a call and of a condition, the
attributes of orderings that are not by a variable, and the keys of groupings. What a block is
written with names exactly these (`Block.holds_phrase`).

So an attribute is written in angle brackets exactly if it is a URI, whatever counts as a URI,
unless it stands where no brackets are ever written: in front of the arguments of a function, in
an ordering or in a grouping (`Block.bracketed_iff`).
-/

namespace Dql

open Text

/-! ## Brackets -/

theorem bracketed_eq_self_iff {isUri : String → Bool} {name : String} :
    bracketed isUri name = name ↔ isUri name = false := by
  unfold bracketed
  cases isUri name with
  | false => simp
  | true =>
    refine iff_of_false (fun h => ?_) nofun
    have hlength := congrArg String.length h
    simp only [if_true, String.length_append] at hlength
    have hopen : "<".length = 1 := rfl
    omega

theorem Name.text_predicate (isUri : String → Bool) (place : Piece.Place) (name : String) :
    (predicate place name).text isUri =
      if place = .subject then bracketed isUri name else name := by
  cases place <;> rfl

theorem Phrase.mem_predicates_iff {t : Phrase} {place : Piece.Place} {name : String} :
    (place, name) ∈ t.predicates ↔ .predicate place name ∈ t.names := by
  unfold predicates
  rw [List.mem_filterMap]
  constructor
  · rintro ⟨n, hn, hname⟩
    cases n with
    | reference name' | ordered name' kind => exact absurd hname nofun
    | predicate place' name' =>
      obtain ⟨rfl, rfl⟩ := Prod.mk.inj (Option.some.inj hname)
      exact hn
  · exact fun h => ⟨_, h, rfl⟩

namespace Block

/-- **Attributes are bracketed where they say what something is about, and only there.** Whatever
counts as a URI, the text of a block that is accepted is put together from the attributes that the
block names, each in its place. One that says what a node, a call or a condition is about is
written in angle brackets exactly if it is a URI; every other one is written bare. So all of them
are bracketed exactly if they are URIs if and only if there is no URI in front of the arguments of
a function, in an ordering or in a grouping. -/
theorem bracketed_iff (b : Block) (isUri : String → Bool) (text : String)
    (h : b.renderUnder isUri = .ok text) :
    b.renderUnder Uri.isAbsolute = b.render ∧
      ∃ t, b.phrase = .ok t ∧ text = normalize (t.text isUri) ∧ t.predicates = b.predicates ∧
        (∀ place name, .predicate place name ∈ t.names → (Name.predicate place name).text isUri =
          if place = .subject then bracketed isUri name else name) ∧
        ((∀ place name, .predicate place name ∈ t.names →
            (Name.predicate place name).text isUri = bracketed isUri name) ↔
          ∀ p ∈ b.predicates, p.1 ≠ .subject → isUri p.2 = false) := by
  obtain ⟨t, ht, rfl⟩ := exists_of_map_eq_ok h
  have hlisted : t.predicates = b.predicates := (holds_phrase ht).predicates
  refine ⟨rfl, t, ht, rfl, hlisted, fun place name _ => Name.text_predicate isUri place name, ?_⟩
  rw [← hlisted]
  constructor
  · -- a name that is written bare is what brackets make of it only if it is no URI
    rintro hall ⟨place, name⟩ hp hplace
    have hname := hall place name (Phrase.mem_predicates_iff.1 hp)
    rw [Name.text_predicate, if_neg hplace] at hname
    exact bracketed_eq_self_iff.1 hname.symm
  · intro hnone place name hmem
    rw [Name.text_predicate]
    by_cases hplace : place = .subject
    · rw [if_pos hplace]
    · have hfalse := hnone (place, name) (Phrase.mem_predicates_iff.2 hmem) hplace
      rw [if_neg hplace, bracketed_eq_self_iff.2 hfalse]

/-- A block that names URIs in every place. -/
def linked : Block where
  queries := [{
    clause := {
      aliasName := "me", call := some { name := "uid" }, ids := [1]
      orders := [{ attr := "urn:name" }] }
    children := [
      { clause := {
          attr := "urn:knows", groupKeys := [{ attr := "urn:age" }] } },
      { clause := {
          attr := "urn:height"
          call := some { name := "max", arguments := [{ value := "1" }] } } }] }]

/-- The lines of this block. -/
def linkedLines : List String :=
  ["\x7b", "    me(func: uid(0x01), orderasc: urn:name) \x7b",
    "        <urn:knows> @groupby(urn:age)",
    "        max(urn:height(\"1\"))", "    \x7d", "\x7d"]

/-- If nothing but the one attribute that stands alone is a URI, then all is bracketed as it should
be. -/
theorem bracketed_iff_linked :
    ∃ text, linked.renderUnder (· == "urn:knows") = .ok text ∧
      ∃ t, linked.phrase = .ok t ∧ ∀ place name, .predicate place name ∈ t.names →
        (Name.predicate place name).text (· == "urn:knows") =
          bracketed (· == "urn:knows") name := by
  obtain ⟨text, h⟩ : ∃ text, linked.renderUnder (· == "urn:knows") = .ok text :=
    ⟨_, rfl⟩
  obtain ⟨_, t, ht, _, _, _, hall⟩ := bracketed_iff linked _ text h
  exact ⟨text, h, t, ht, hall.2 (by decide)⟩

/-- Three attributes that are URIs are written without brackets. -/
theorem render_linked :
    linked.render = .ok (join "\n" linkedLines) ∧
      ∀ uri ∈ ["urn:name", "urn:age", "urn:height"],
        Uri.isAbsolute uri = true ∧
          ¬ (bracketed Uri.isAbsolute uri).toList <:+: (join "\n" linkedLines).toList :=
  ⟨eq_ok_of_toOption (by decide +kernel), by decide +kernel⟩

end Block

end Dql
