import Dql.Proofs.Outcome
import Dql.Proofs.Render.Consists

/-!
# What calls, filters and expressions consist of

Each function that writes a term, a call, a filter or an expression has one lemma
`consists_…`: the phrase consists of the contents that are listed for it
(`Phrase.Consists`). The lemma for filters goes by the tree, together with the one for
lists of filters.
-/

namespace Dql

open Text Phrase

/-! ## Terms -/

namespace Contents

variable {α β : Type}

theorem ofEach_map (xs : List α) (g : α → β) (f : β → Contents) :
    ofEach (xs.map g) f = ofEach xs fun x => f (g x) := by
  ext1 <;> exact List.flatMap_map g _ xs

theorem ofEach_append (xs ys : List α) (f : α → Contents) :
    ofEach (xs ++ ys) f = ofEach xs f ++ ofEach ys f := by
  ext1 <;> exact List.flatMap_append

theorem flatMap_nil {γ : Type} (xs : List α) : (xs.flatMap fun _ => ([] : List γ)) = [] :=
  List.flatMap_eq_nil_iff.2 fun _ _ => rfl

theorem ofEach_empty (xs : List α) : ofEach xs (fun _ => {}) = {} := by
  simp only [ofEach, flatMap_nil]

/-- Members that each say the name of one variable. -/
theorem ofEach_variable (xs : List α) (f : α → String) :
    ofEach xs (fun x => { own := [f x], variableNames := [f x] }) =
      { own := xs.map f, variableNames := xs.map f } := by
  simp only [ofEach, ← List.map_eq_flatMap, flatMap_nil]

/-- Members of which each has strings only. -/
theorem ofEach_own (xs : List α) (f : α → List String) :
    ofEach xs (fun x => { own := f x }) = { own := xs.flatMap f } := by
  simp only [ofEach, flatMap_nil]

end Contents

namespace Phrase

/-- A string of the tree. -/
theorem consists_own (s : String) : (own s).Consists { own := [s] } := consists_term (.own s)

theorem consists_subject (name : String) :
    (predicate .subject name).Consists { own := [name], predicates := [(.subject, name)] } :=
  consists_term (.name (.predicate .subject name))

theorem endsOff_mark {s : Phrase} {w : String} {hw : w.toList.all Mark.admits = true}
    (h : Separates w) : EndsOff (s ++ mark w hw).written := by
  rw [written_append, written_mark]
  exact h.endsOff _

theorem startsOff_mark {t : Phrase} {w : String} {hw : w.toList.all Mark.admits = true}
    (h : Separates w) : StartsOff (mark w hw ++ t).written := by
  rw [written_append, written_mark]
  exact h.startsOff _

/-- A name in front of what it stands for, with the colon as part of it. -/
theorem consists_colon (name : String) :
    (own (name ++ ":") ++ mark " ").Consists { own := [name ++ ":"] } :=
  (consists_own _).before (by decide)

theorem consists_named (name : String) :
    (named name).Consists { own := Render.unquotedLabel name } ∧ EndsOff (named name).written := by
  unfold named unlessEmpty Render.unquotedLabel
  split
  · exact ⟨.nil, by decide⟩
  · exact ⟨consists_colon name, endsOff_mark separates_space⟩

theorem consists_entry (key value : String) :
    (entry key value).Consists { own := [key ++ ":", value] } :=
  (consists_colon key).leading (consists_own value) (endsOff_mark separates_space)

namespace Consists

variable {inside : Phrase} {c : Contents}

theorem application (h : inside.Consists c) (name : String) :
    (Phrase.application (own name) inside).Consists { c with own := name :: c.own } :=
  ((consists_own name).between h separates_open).before separates_close.2.2

/-- A call of a function by a word of the language. -/
theorem application_mark {w : String} {hw : w.toList.all Mark.admits = true}
    (h : inside.Consists c) (hword : Inert w) :
    (Phrase.application (Phrase.mark w hw) inside).Consists c :=
  ((Consists.mark hword).between h separates_open).before separates_close.2.2

/-- The count of something. -/
theorem counted (h : inside.Consists c) :
    (Phrase.application (Phrase.mark "count") inside).Consists c := h.application_mark (by decide)

/-- Arguments behind what they are compared with. -/
theorem compared {t : Phrase} {d : Contents} (h : inside.Consists c) (ht : t.Consists d) :
    (inside ++ Phrase.mark ", " ++ t).Consists (c ++ d) := h.between ht separates_comma

end Consists

end Phrase

namespace Render

theorem consists_languages (langs : List String) :
    (languagesPhrase langs).Consists { own := [join ":" langs] } ∧
      StartsOff (languagesPhrase langs).written := by
  unfold languagesPhrase
  split
  next h =>
    obtain rfl := List.isEmpty_iff.1 h
    exact ⟨.nil_empty, by decide⟩
  next => exact ⟨(consists_own _).behind (by decide), startsOff_mark (by decide)⟩

theorem consists_language (lang : String) :
    (languagePhrase lang).Consists { own := [lang] } ∧
      StartsOff (languagePhrase lang).written := by
  unfold languagePhrase Phrase.unlessEmpty
  split
  next h =>
    obtain rfl := String.isEmpty_iff.1 h
    exact ⟨.nil_empty, by decide⟩
  next => exact ⟨(consists_own _).behind (by decide), startsOff_mark (by decide)⟩

/-- A predicate with the languages behind it. -/
theorem consists_attribute {attr : Phrase} {c : Contents} (h : attr.Consists c)
    (langs : List String) :
    (attr ++ languagesPhrase langs).Consists (c ++ { own := [join ":" langs] }) :=
  h.followed (consists_languages langs).1 (consists_languages langs).2

theorem contents_useTerm (u : VariableUse) :
    (useTerm u).contents = { own := [u.name], variableNames := [u.name] } := by
  unfold useTerm
  cases u.kind <;> rfl

/-- Variables that are used, written in whatever way. -/
theorem consists_uses {f : VariableUse → Term} (us : List VariableUse)
    (hf : ∀ u, (f u).contents = { own := [u.name], variableNames := [u.name] }) :
    (terms (us.map f)).Consists { own := us.map (·.name), variableNames := us.map (·.name) } := by
  refine (consists_terms _).of_eq ?_
  rw [Contents.ofEach_map, funext hf, Contents.ofEach_variable]

/-- Identifiers, and behind them variables by name. -/
theorem contents_identifiers (ids : List Uid) (us : List VariableUse) :
    Contents.ofEach (ids.map .identifier ++ us.map referenceTerm) Term.contents =
      { own := us.map (·.name), variableNames := us.map (·.name) } := by
  rw [Contents.ofEach_append, Contents.ofEach_map, Contents.ofEach_map]
  exact (congrArg (· ++ _) (Contents.ofEach_empty ids)).trans (Contents.ofEach_variable us (·.name))

theorem contents_argumentTerm (ofVariable : Bool) (a : Argument) :
    (argumentTerm ofVariable a).contents =
      { own := unquotedArgument ofVariable a, literals := quotedArgument ofVariable a
        variableNames := if a.isValueVariable then [a.value] else [] } := by
  unfold argumentTerm unquotedArgument quotedArgument
  cases a.isValueVariable <;> cases a.isRequestVariable <;> cases ofVariable <;> rfl

theorem uncheckedInside_argumentTerm (ofVariable : Bool) (a : Argument) :
    (argumentTerm ofVariable a).uncheckedInside =
      if !a.isValueVariable && (a.isRequestVariable || ofVariable) then [a.value] else [] := by
  unfold argumentTerm
  cases a.isValueVariable <;> cases a.isRequestVariable <;> cases ofVariable <;> rfl

end Render

/-- The members that satisfy a condition, each as a list of its own. -/
theorem flatMap_ite_eq_map_filter {α β : Type} (xs : List α) (p : α → Bool) (f : α → β) :
    (xs.flatMap fun x => if p x then [f x] else []) = (xs.filter p).map f := by
  induction xs with
  | nil => rfl
  | cons x xs ih =>
    rw [List.flatMap_cons, List.filter_cons, ih]
    split <;> rfl

namespace Call

variable {c : Call}

/-- The names of the values among the arguments of a call. -/
def valueArguments (c : Call) : List String :=
  (c.arguments.filter (·.isValueVariable)).map (·.value)

/-- The arguments of a call, if it has any, with what stands in them. -/
theorem argumentTerms?_cases (c : Call) :
    (Render.argumentTerms? c = none ∧ c.arguments = []) ∨
      ∃ ts names, Render.argumentTerms? c = some ts ∧ c.arguments ≠ [] ∧
        (∀ n ∈ names, n ∈ c.valueArguments) ∧ ts.flatMap Term.uncheckedInside = c.rawArguments ∧
        Contents.ofEach ts Term.contents =
          { own := c.unquotedArguments, literals := c.quotedArguments,
            variableNames := names } := by
  unfold Render.argumentTerms? unquotedArguments quotedArguments rawArguments
  cases hargs : c.arguments with
  | nil => exact Or.inl ⟨rfl, rfl⟩
  | cons first rest =>
    refine Or.inr ?_
    dsimp only
    by_cases hname : c.name = "regexp"
    · simp only [if_pos hname]
      exact ⟨_, [], rfl, by simp, by simp, rfl, rfl⟩
    · simp only [if_neg hname]
      refine ⟨_, c.valueArguments, rfl, by simp, fun _ h => h, ?_, ?_⟩
      · rw [List.flatMap_map, ← flatMap_ite_eq_map_filter]
        exact congrArg (List.flatMap · _)
          (funext (Render.uncheckedInside_argumentTerm c.isValueVariable))
      · rw [Contents.ofEach_map, funext (Render.contents_argumentTerm c.isValueVariable)]
        unfold Contents.ofEach valueArguments
        rw [hargs, ← flatMap_ite_eq_map_filter]
        simp only [Contents.flatMap_nil]

theorem quotedArguments_of_nil (h : c.arguments = []) : c.quotedArguments = [] := by
  unfold quotedArguments
  rw [h]
  split <;> rfl

theorem mem_namesInCall_of_use {n : String} (h : n ∈ c.unquotedUses) :
    n ∈ Scope.namesInCall c := List.mem_append_left _ h

theorem mem_namesInCall_of_value {n : String} (h : n ∈ c.valueArguments) :
    n ∈ Scope.namesInCall c := List.mem_append_right _ h

/-- Arguments that are written as they are. -/
theorem consists_raw (as : List Argument) :
    (terms (as.map fun a => .own a.value)).Consists { own := as.map (·.value) } := by
  refine (consists_terms _).of_eq ?_
  rw [Contents.ofEach_map, List.map_eq_flatMap]
  exact Contents.ofEach_own as fun a => [a.value]

/-- The attribute of a leaf, as it is or by value. -/
theorem consists_leafAttribute (c : Call) :
    (if c.isValueVariable then values [.predicate .subject c.attr]
      else predicate .subject c.attr).Consists
        { own := [c.attr], predicates := [(.subject, c.attr)]
          unchecked := if c.isValueVariable then [c.attr] else [] } := by
  cases c.isValueVariable with
  | true => exact consists_term (.values [.predicate .subject c.attr])
  | false => exact consists_subject c.attr

/-- A call as the leaf of a filter. -/
theorem consists_leafPhrase {node : String} {t : Phrase} (h : c.leafPhrase node = .ok t) :
    t.Consists c.leafContents := by
  have huses := Render.consists_uses c.uses Render.contents_useTerm
  have hused : ∀ n ∈ c.unquotedUses, n ∈ Scope.namesInCall c := fun _ => mem_namesInCall_of_use
  obtain ⟨hlang, hoff⟩ := Render.consists_language c.lang
  unfold leafPhrase at h
  unfold leafContents unquotedInLeaf quotedInLeaf leafPredicates uncheckedInLeaf
  rcases argumentTerms?_cases c with ⟨hnone, hempty⟩ | ⟨ts, names, hsome, hne, hnames, -, hts⟩
  · -- without arguments nothing is quoted, and nothing compared
    simp only [hnone, quotedArguments_of_nil hempty, ite_self, hempty, List.isEmpty_nil, if_true,
      Bool.true_and, Bool.not_true, Bool.and_false, Bool.false_eq_true, if_false] at h ⊢
    cases hids : c.ids.isEmpty with
    | false =>
      have hinside := (consists_terms _).of_eq (Render.contents_identifiers c.ids c.uses)
      simp only [hids, Bool.not_false, if_true, Bool.or_true] at h ⊢
      obtain rfl := Except.ok.inj h
      exact (hinside.application c.name).within_names hused
    | true =>
      cases hattr : c.attr.isEmpty with
      | false =>
        have hinside := (consists_subject c.attr).followed hlang hoff
        simp only [hids, hattr, Bool.not_true, Bool.not_false, Bool.false_eq_true, if_true,
          if_false, Bool.or_false] at h ⊢
        obtain rfl := Except.ok.inj h
        exact (hinside.application c.name).within_names (by simp)
      | true =>
        simp only [hids, hattr, Bool.not_true, Bool.false_eq_true, if_true, if_false,
          Bool.true_or] at h ⊢
        split at h
        · obtain rfl := Except.ok.inj h
          exact (huses.application c.name).within_names hused
        · exact absurd h (by simp)
  · have hname := c.consists_leafAttribute
    have harguments := ((consists_terms ts).of_eq hts).within_names
      fun n hn => mem_namesInCall_of_value (hnames n hn)
    have hargs : c.arguments.isEmpty = false := by simpa using hne
    simp only [hsome, hargs, Bool.false_eq_true, if_false, Bool.false_and, Bool.or_false,
      Bool.not_false, Bool.and_true] at h ⊢
    cases hattr : c.attr.isEmpty with
    | false =>
      simp only [hattr, Bool.not_false, if_true, Bool.and_true, Bool.false_eq_true, if_false] at h ⊢
      cases hcount : c.isCount with
      | true =>
        have hinside := hname.counted.compared harguments
        simp only [hcount, if_true] at h ⊢
        obtain rfl := Except.ok.inj h
        exact (hinside.application c.name).mono (.refl _) rfl rfl (fun _ h => h) (by simp)
      | false =>
        have hinside := (hname.followed hlang hoff).compared harguments
        simp only [hcount, Bool.false_eq_true, if_false] at h ⊢
        obtain rfl := Except.ok.inj h
        exact (hinside.application c.name).mono (.refl _) rfl rfl (fun _ h => h) (by simp)
    | true =>
      -- over variables the arguments are written without quotes
      have hvalues := consists_raw c.arguments
      simp only [hattr, Bool.not_true, Bool.false_eq_true, if_true, if_false, Bool.and_false] at h ⊢
      split at h
      · obtain rfl := Except.ok.inj h
        have hinside := huses.compared hvalues
        refine (hinside.application c.name).mono (.refl _) rfl rfl (fun n hn => hused n ?_) rfl
        exact (List.append_nil c.unquotedUses) ▸ hn
      · exact absurd h (by simp)

end Call

/-! ## Filters and expressions -/

namespace Filter

/-- Operands put together, with the operator in front of them or between each two. -/
theorem consists_connectPhrase {op : String} {operands : List Filter}
    {ts : List Phrase} {c : Contents} (hlen : ts.length = operands.length) (h : ConsistsAll ts c) :
    (connectPhrase op ts).Consists { c with own := unquotedOperator op operands ++ c.own } := by
  unfold connectPhrase unquotedOperator
  split
  · exact ((consists_own op).between h.listed (by decide)).before separates_close.2.2
  · -- the operator itself is unquoted, and stands once less often than there are operands
    have hsep : (mark " " ++ own op ++ mark " ").Consists { own := [op] } :=
      (consists_own op).within separates_space.2.1 separates_space.2.2
    have hne : (mark " " ++ own op ++ mark " ").written ≠ "" := by
      simp only [written_append, written_mark, written_own]
      exact fun he => absurd (congrArg String.toList he) (by simp)
    have hjoin := h.joinWith hsep hne (startsOff_mark separates_space)
      (endsOff_mark separates_space)
    rw [hlen, List.flatten_replicate_singleton] at hjoin
    exact hjoin.inBrackets.1.mono List.perm_append_comm rfl rfl (fun _ h => h) rfl

mutual

/-- A filter. -/
theorem consists_phrase {node : String} {t : Phrase} :
    ∀ f : Filter, f.phrase node = .ok t → t.Consists f.contents
  | ⟨op, operands, some call⟩ => by
    intro h
    rw [phrase] at h
    split at h
    · exact (call.consists_leafPhrase h).within_names fun n hn => List.mem_append_left _ hn
    · exact absurd h nofun
  | ⟨op, operands, none⟩ => by
    intro h
    rw [phrase] at h
    split at h
    · exact absurd h nofun
    · split at h
      · exact absurd h nofun
      · obtain ⟨ts, hts, rfl⟩ := exists_of_map_eq_ok h
        obtain ⟨hlen, hall⟩ := consists_phrases operands hts
        exact consists_connectPhrase hlen hall

/-- Filters, one by one. -/
theorem consists_phrases {node : String} {ts : List Phrase} :
    ∀ fs : List Filter, phrases node fs = .ok ts →
      ts.length = fs.length ∧ ConsistsAll ts (allContents fs)
  | [] => by
    intro h
    obtain rfl := Except.ok.inj h
    exact ⟨rfl, .nil⟩
  | f :: rest => by
    intro h
    rw [phrases] at h
    cases hf : f.phrase node with
    | error e => rw [hf] at h; exact absurd h nofun
    | ok t =>
      rw [hf] at h
      obtain ⟨more, hmore, rfl⟩ := exists_of_map_eq_ok h
      obtain ⟨hlen, hall⟩ := consists_phrases rest hmore
      exact ⟨congrArg (· + 1) hlen, .cons (consists_phrase f hf) hall⟩

end

end Filter

/-- An expression is written in brackets, so nothing in front of it goes on into it. -/
theorem MathExpr.consists_phrase {node : String} {e : MathExpr} {t : Phrase}
    (h : e.phrase node = .ok t) : t.Consists { own := (e.toInfix node).toOption.toList } := by
  obtain ⟨inside, hinside, rfl⟩ := exists_of_map_eq_ok h
  rw [hinside]
  show (mark "math" ++ bracketPhrase inside).Consists { own := [inside] }
  have hmath : (mark "math").Consists {} := .mark (by decide)
  unfold bracketPhrase
  split
  next henc =>
    have hhead : inside.toList.head? = some '(' := by
      unfold encloses at henc
      rw [Bool.and_eq_true, beq_iff_eq] at henc
      exact henc.1
    refine hmath.followed (consists_own inside) ?_
    unfold StartsOff
    rw [written_own, hhead]
    decide
  next =>
    obtain ⟨hinside, hstart⟩ := (consists_own inside).inBrackets
    exact hmath.followed hinside hstart

end Dql
