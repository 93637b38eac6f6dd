import Dql.Proofs.Render.Written

/-!
# The two texts of a call

A call over an attribute is written in two places: as the function that generates a node
(`Clause.functionText`) and as the leaf of a filter (`Call.renderLeaf`). With arguments, and on
a node without an attribute of its own, both write the attribute, its language or its count,
and the arguments behind it. They differ in two respects. The leaf writes an attribute that
stands for the value of a variable as that value, the function as a bare name; and the function
leaves the comma away where the arguments have no characters.

`Clause.functionText_eq_iff` says that the texts are the same in all other cases, and only then.
When arguments have no characters is said by `Call.HasNamelessArgument`.
-/

namespace Dql

namespace Render

theorem application_inj {name inside inside' : String} :
    application name inside = application name inside' ↔ inside = inside' := by
  unfold application
  rw [String.append_left_inj, String.append_right_inj]

theorem length_valueOf (name : String) : (valueOf name).length = name.length + 5 := by
  have hopen : "val(".length = 4 := rfl
  have hclose : ")".length = 1 := rfl
  unfold valueOf
  rw [String.length_append, String.length_append, hopen, hclose]
  omega

theorem valueOf_ne_empty (name : String) : valueOf name ≠ "" := by simp [valueOf]

theorem quote_ne_empty (s : String) : Text.quote s ≠ "" := by simp [Text.quote]

theorem pattern_ne_empty (body : String) (flags : List String) : pattern body flags ≠ "" := by
  simp [pattern]

end Render

namespace Call

variable {call : Call}

/-- The one argument of a call is a variable of the request that has no name. Such an argument
has no characters. -/
def HasNamelessArgument (call : Call) : Prop :=
  call.name ≠ "regexp" ∧ ∃ a, call.arguments = [a] ∧ a.isValueVariable = false ∧
    a.isRequestVariable = true ∧ a.value = ""

/-- An argument of a call over an attribute of nodes has no characters exactly if it is a
variable of the request without a name. -/
theorem argument_eq_empty_iff (a : Argument) :
    Render.argument false a = "" ↔
      a.isValueVariable = false ∧ a.isRequestVariable = true ∧ a.value = "" := by
  rw [Render.argument_eq]
  by_cases hvalue : a.isValueVariable = true
  · simp [hvalue, Render.valueOf_ne_empty]
  · by_cases hrequest : a.isRequestVariable = true
    · simp [hvalue, hrequest]
    · simp [hvalue, hrequest, Render.quote_ne_empty]

/-- The arguments of a call over an attribute of nodes have no characters exactly if the call
has a nameless argument. -/
theorem arguments?_eq_empty_iff (hvalue : call.isValueVariable = false) :
    Render.arguments? call = some "" ↔ call.HasNamelessArgument := by
  unfold HasNamelessArgument
  rw [Render.arguments?_eq, hvalue]
  cases hargs : call.arguments with
  | nil => simp
  | cons first rest =>
    by_cases hname : call.name = "regexp"
    · simp [hname, Render.pattern_ne_empty]
    · cases rest with
      | nil => simp [hname, argument_eq_empty_iff]
      | cons second rest =>
        -- two arguments have a comma between them
        simp [hname]

/-- The attribute of a leaf: the value of a variable, or the attribute of nodes. -/
def leafAttribute (call : Call) : String :=
  if call.isValueVariable then Render.valueOf (Render.attributeText call.attr)
  else Render.attributeText call.attr

theorem leafAttribute_eq_iff :
    call.leafAttribute = Render.attributeText call.attr ↔ call.isValueVariable = false := by
  unfold leafAttribute
  split
  next hvalue =>
    rw [hvalue]
    refine iff_of_false (fun h => ?_) (by simp)
    have hlength := Render.length_valueOf (Render.attributeText call.attr)
    rw [h] at hlength
    omega
  next hvalue => simp [hvalue]

theorem length_le_leafAttribute (call : Call) :
    (Render.attributeText call.attr).length ≤ call.leafAttribute.length := by
  unfold leafAttribute
  split
  · rw [Render.length_valueOf]
    omega
  · exact Nat.le_refl _

/-- What is written of a call that does not count is the same, as a function and as a leaf,
exactly if the attribute is and the arguments have characters. -/
theorem uncounted_eq_iff (call : Call) (arguments : String) :
    (if arguments.isEmpty then Render.attributeText call.attr ++ Render.language call.lang
      else Render.attributeText call.attr ++ Render.language call.lang ++ ", " ++ arguments)
        = call.leafAttribute ++ Render.language call.lang ++ ", " ++ arguments ↔
      call.isValueVariable = false ∧ arguments ≠ "" := by
  by_cases hempty : arguments = ""
  · -- the comma is written by the leaf alone
    refine iff_of_false (fun h => ?_) (fun h => h.2 hempty)
    rw [if_pos (by simpa using hempty)] at h
    have hlength := congrArg String.length h
    have hcomma : ", ".length = 2 := rfl
    simp only [String.length_append, hcomma] at hlength
    have hattribute := call.length_le_leafAttribute
    omega
  · rw [if_neg (by simpa using hempty), String.append_left_inj, String.append_left_inj,
      String.append_left_inj, eq_comm, leafAttribute_eq_iff]
    simp [hempty]

theorem exists_arguments (h : call.arguments ≠ []) :
    ∃ arguments, Render.arguments? call = some arguments := by
  rw [Render.arguments?_eq]
  cases hargs : call.arguments with
  | nil => exact absurd hargs h
  | cons first rest =>
    dsimp only
    split
    · exact ⟨_, rfl⟩
    · exact ⟨_, rfl⟩

/-- The leaf over an attribute with arguments. -/
theorem renderLeaf_of_arguments {arguments : String} (hattr : call.attr ≠ "")
    (harguments : Render.arguments? call = some arguments) (node : String) :
    call.renderLeaf node = .ok (Render.application call.name
      (if call.isCount then Render.application "count" call.leafAttribute ++ ", " ++ arguments
        else call.leafAttribute ++ Render.language call.lang ++ ", " ++ arguments)) := by
  have hattr' : (!call.attr.isEmpty) = true := by simpa using hattr
  unfold leafAttribute
  rw [renderLeaf_eq, harguments]
  simp only [hattr', if_true]
  split <;> rfl

end Call

namespace Clause

variable {c : Clause} {call : Call}

/-- The function over an attribute with arguments, on a node without an attribute. -/
theorem functionText_of_arguments {arguments : String} (hclause : c.attr = "")
    (hname : call.name ≠ "") (hattr : call.attr ≠ "")
    (harguments : Render.arguments? call = some arguments) :
    c.functionText call = .ok (Render.application call.name
      (if call.isCount then
        Render.application "count" (Render.attributeText call.attr) ++ ", " ++ arguments
      else if arguments.isEmpty then
        Render.attributeText call.attr ++ Render.language call.lang
      else Render.attributeText call.attr ++ Render.language call.lang ++ ", " ++ arguments)) := by
  -- identifiers on the node do not count where the call has arguments
  have hsome : call.arguments.isEmpty = false := by
    cases hargs : call.arguments with
    | nil => rw [Render.arguments?_eq, hargs] at harguments; simp at harguments
    | cons first rest => rfl
  have hwritten : c.functionArguments call = arguments := by
    rw [functionArguments_eq, hsome, Bool.and_false, if_neg Bool.false_ne_true, harguments]
  have hname' : ¬ call.name.isEmpty = true := by simpa using hname
  have hclause' : ¬ (!c.attr.isEmpty) = true := by simp [hclause]
  have hattr' : (!call.attr.isEmpty) = true := by simpa using hattr
  rw [functionText_eq, if_neg hname', hwritten]
  dsimp only
  rw [if_neg hclause', if_pos hattr']
  split
  · rfl
  · split <;> rfl

/-- **When a call has one text.** A call over an attribute, with arguments, has a text as the
function of a node without an attribute and a text as the leaf of a filter. The two are the
same exactly if the attribute is not the value of a variable, and the arguments have characters
or the attribute is counted. -/
theorem functionText_eq_iff (hclause : c.attr = "") (hname : call.name ≠ "")
    (hattr : call.attr ≠ "") (harguments : call.arguments ≠ []) (node : String) :
    ∃ s t, c.functionText call = .ok s ∧ call.renderLeaf node = .ok t ∧
      (s = t ↔ call.isValueVariable = false ∧
        (call.isCount = true ∨ ¬ call.HasNamelessArgument)) := by
  obtain ⟨arguments, hsome⟩ := Call.exists_arguments harguments
  refine ⟨_, _, functionText_of_arguments hclause hname hattr hsome,
    Call.renderLeaf_of_arguments hattr hsome node, ?_⟩
  rw [Render.application_inj]
  by_cases hcount : call.isCount = true
  · rw [if_pos hcount, if_pos hcount, String.append_left_inj, String.append_left_inj,
      Render.application_inj, eq_comm, Call.leafAttribute_eq_iff]
    simp [hcount]
  · rw [if_neg hcount, if_neg hcount, Call.uncounted_eq_iff]
    refine and_congr_right fun hvalue => ?_
    have hnameless : call.HasNamelessArgument ↔ arguments = "" := by
      rw [← Call.arguments?_eq_empty_iff hvalue, hsome, Option.some.injEq]
    rw [hnameless, or_iff_right hcount]

/-- A match of names in a language against a variable of the request and a value. -/
def greeting : Call where
  name := "anyof"
  attr := "name"
  lang := "en"
  arguments := [{ value := "", isRequestVariable := true }, { value := "say \"hi\"" }]
  ids := [7]
  uses := [⟨"L", .nodes⟩]

/-- Two arguments, the first of them nameless: the texts are the same. -/
theorem functionText_eq_iff_greeting :
    ((({} : Clause).attr = "" ∧ greeting.name ≠ "") ∧
        greeting.attr ≠ "" ∧ greeting.arguments ≠ []) ∧
      ∃ s t, ({} : Clause).functionText greeting = .ok s ∧
        greeting.renderLeaf "me" = .ok t ∧ s = t := by
  have hclause : ({} : Clause).attr = "" := rfl
  have hname : greeting.name ≠ "" := by decide
  have hattr : greeting.attr ≠ "" := by decide
  have harguments : greeting.arguments ≠ [] := by decide
  refine ⟨⟨⟨hclause, hname⟩, hattr, harguments⟩, ?_⟩
  obtain ⟨s, t, hs, ht, heq⟩ := functionText_eq_iff hclause hname hattr harguments "me"
  refine ⟨s, t, hs, ht, heq.2 ⟨rfl, .inr ?_⟩⟩
  rintro ⟨-, a, ha, -⟩
  exact absurd (congrArg List.length ha) (by simp [greeting])

/-- A comparison of the value of a variable with a number. -/
def comparison : Call where
  name := "gt"
  attr := "a"
  arguments := [{ value := "10" }]
  uses := [⟨"a", .values⟩]
  isValueVariable := true

/-- As a leaf this compares the values of the variable, as a function the attribute that is
called like it. -/
theorem comparison_texts_differ :
    ({} : Clause).functionText comparison = .ok "gt(a, 10)" ∧
      comparison.renderLeaf "me" = .ok "gt(val(a), 10)" :=
  ⟨rfl, rfl⟩

end Clause

end Dql
