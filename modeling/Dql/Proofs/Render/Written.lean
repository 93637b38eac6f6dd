import Dql.Proofs.Outcome
import Dql.Render.Block

/-!
# The texts of the parts

Beside each phrase of the writer stands here the text that it comes to if absolute URIs are what
counts as URIs: `Clause.parameters` is the text of `Clause.parameterPhrase`, and so on. Each text
has one equation `…_eq` that says how it is put together from the texts of its parts. What is said
of a block as a string rests on these equations; what is said of its pieces does not need them.
-/

namespace Dql

open Text

/-! ## Texts of terms and phrases -/

section Text

variable (isUri : String → Bool)

@[simp] theorem Term.text_own (s : String) : (own s).text isUri = s := rfl

@[simp] theorem Term.text_literal (s : String) : (literal s).text isUri = quote s := rfl

@[simp] theorem Term.text_identifier (uid : Uid) : (identifier uid).text isUri = uid.format := rfl

@[simp] theorem Render.text_referenceTerm (u : VariableUse) :
    (referenceTerm u).text isUri = u.name := rfl

@[simp] theorem Name.text_reference (name : String) : (reference name).text isUri = name := rfl

@[simp] theorem Name.text_ordered (name : String) (kind : VariableKind) :
    (ordered name kind).text isUri = Render.variableOf name kind := rfl

end Text

namespace Phrase

@[simp] theorem written_nil : written [] = "" := rfl

@[simp] theorem written_append (s t : Phrase) : (s ++ t).written = s.written ++ t.written := by
  unfold written
  induction s with
  | nil => exact String.empty_append.symm
  | cons p rest ih => rw [List.cons_append, text, ih, text, String.append_assoc]

theorem written_singleton (p : Piece) : written [p] = p.text Uri.isAbsolute := String.append_empty

@[simp] theorem written_mark (s : String) (plain : s.toList.all Mark.admits = true) :
    (mark s plain).written = s := written_singleton _

@[simp] theorem written_own (s : String) : (own s).written = s := written_singleton _

@[simp] theorem written_ordering (name : String) : (predicate .ordering name).written = name :=
  written_singleton _

@[simp] theorem written_grouping (name : String) : (predicate .grouping name).written = name :=
  written_singleton _

theorem written_joined (sep : Phrase) (ts : List Phrase) :
    (joined sep ts).written = join sep.written (ts.map written) := by
  induction ts with
  | nil => rfl
  | cons t rest ih =>
    cases rest with
    | nil => rfl
    | cons u rest => rw [joined, written_append, written_append, ih]; rfl

theorem written_listed (ts : List Phrase) :
    (listed ts).written = join ", " (ts.map written) := by
  rw [listed, written_joined, written_mark]

@[simp] theorem written_terms (ts : List Term) :
    (terms ts).written = join ", " (ts.map (Term.text Uri.isAbsolute)) := by
  rw [terms, written_listed, List.map_map]
  exact congrArg _ (List.map_congr_left fun t _ => written_singleton _)

@[simp] theorem written_unlessEmpty (s : String) (f : String → Phrase) :
    (unlessEmpty s f).written = Text.unlessEmpty s fun s => (f s).written := by
  unfold unlessEmpty Text.unlessEmpty
  split <;> rfl

/-- The colon belongs to the name, the space behind it does not. -/
theorem written_colon (name : String) : (own (name ++ ":") ++ mark " ").written = name ++ ": " := by
  rw [written_append, written_own, written_mark, String.append_assoc]
  rfl

@[simp] theorem written_named (name : String) :
    (named name).written = Text.unlessEmpty name fun a => a ++ ": " := by
  unfold named
  rw [written_unlessEmpty]
  exact congrArg _ (funext fun a => written_colon a)

@[simp] theorem written_entry (key value : String) :
    (entry key value).written = key ++ ": " ++ value := by
  unfold entry
  rw [written_append, written_colon, written_own]

@[simp] theorem written_direction (descending : Bool) :
    (direction descending).written = directionWord descending ++ ": " := written_mark _ _

@[simp] theorem written_indent (depth : Nat) : (indent depth).written = Text.indent depth :=
  written_mark _ _

end Phrase

open Phrase

/-! ## Terms -/

namespace Render

/-- An attribute; one that is an absolute URI stands in angle brackets. -/
def attributeText (attr : String) : String := bracketed Uri.isAbsolute attr

/-- A call of a function. -/
def application (name inside : String) : String := name ++ "(" ++ inside ++ ")"

/-- The value of a variable. -/
def valueOf (name : String) : String := "val(" ++ name ++ ")"

/-- A variable that is consumed. -/
def usedVariable (u : VariableUse) : String := (useTerm u).text Uri.isAbsolute

/-- The languages of an attribute. -/
def languages (langs : List String) : String := (languagesPhrase langs).written

/-- The language of a call's attribute. -/
def language (lang : String) : String := (languagePhrase lang).written

/-- An argument. -/
def argument (ofVariable : Bool) (a : Argument) : String :=
  (argumentTerm ofVariable a).text Uri.isAbsolute

/-- The arguments of a call; none if it has none. -/
def arguments? (c : Call) : Option String :=
  (argumentTerms? c).map fun ts => (terms ts).written

@[simp] theorem written_subject (attr : String) :
    (predicate .subject attr).written = attributeText attr := written_singleton _

theorem written_values (ns : List Name) :
    (values ns).written = valueOf (join ", " (ns.map (Name.text Uri.isAbsolute))) :=
  written_singleton _

@[simp] theorem written_value (n : Name) :
    (values [n]).written = valueOf (n.text Uri.isAbsolute) := written_values [n]

@[simp] theorem written_applied (name : String) (arguments : List Term) :
    Phrase.written [.applied (.predicate .applied name) arguments] =
      application name (join ", " (arguments.map (Term.text Uri.isAbsolute))) :=
  written_singleton _

@[simp] theorem written_application (function inside : Phrase) :
    (Phrase.application function inside).written = application function.written inside.written := by
  simp [Phrase.application, application, String.append_assoc]

@[simp] theorem written_languagesPhrase (langs : List String) :
    (languagesPhrase langs).written = languages langs := rfl

@[simp] theorem written_languagePhrase (lang : String) :
    (languagePhrase lang).written = language lang := rfl

@[simp] theorem text_useTerm (u : VariableUse) :
    (useTerm u).text Uri.isAbsolute = usedVariable u := rfl

@[simp] theorem text_argumentTerm (ofVariable : Bool) (a : Argument) :
    (argumentTerm ofVariable a).text Uri.isAbsolute = argument ofVariable a := rfl

@[simp] theorem text_subject (attr : String) :
    (Name.predicate .subject attr).text Uri.isAbsolute = attributeText attr := rfl

theorem languages_eq (langs : List String) :
    languages langs = if langs.isEmpty then "" else "@" ++ join ":" langs := by
  unfold languages languagesPhrase
  split <;> simp

theorem language_eq (lang : String) :
    language lang = unlessEmpty lang fun l => "@" ++ l := by
  simp [language, languagePhrase]

theorem argument_eq (ofVariable : Bool) (a : Argument) :
    argument ofVariable a =
      if a.isValueVariable then valueOf a.value
      else if a.isRequestVariable || ofVariable then a.value
      else quote a.value := by
  unfold argument argumentTerm
  split
  next => rfl
  next => split <;> rfl

theorem arguments?_eq (c : Call) :
    arguments? c =
      match c.arguments with
      | [] => none
      | first :: rest =>
        if c.name = "regexp" then some (pattern first.value (rest.map (·.value)))
        else some (join ", " ((first :: rest).map (argument c.isValueVariable))) := by
  unfold arguments? argumentTerms?
  cases c.arguments with
  | nil => rfl
  | cons first rest =>
    dsimp only
    split
    next => rw [Option.map_some, written_terms]; rfl
    next => rw [Option.map_some, written_terms, List.map_map]; rfl

end Render

/-! ## Filters -/

/-- A call as the leaf of a filter. -/
def Call.renderLeaf (node : String) (c : Call) : Except RenderError String :=
  (c.leafPhrase node).map written

theorem Call.renderLeaf_eq (node : String) (c : Call) :
    c.renderLeaf node =
      let used := join ", " (c.uses.map Render.usedVariable)
      match Render.arguments? c with
      | none =>
        if !c.ids.isEmpty then
          .ok (Render.application c.name
            (join ", " (c.ids.map Uid.format ++ c.uses.map (·.name))))
        else if !c.attr.isEmpty then
          .ok (Render.application c.name (Render.attributeText c.attr ++ Render.language c.lang))
        else if !c.uses.isEmpty then .ok (Render.application c.name used)
        else .error (.emptyFunction node c.name)
      | some arguments =>
        if !c.attr.isEmpty then
          let attr := Render.attributeText c.attr
          let attr := if c.isValueVariable then Render.valueOf attr else attr
          if c.isCount then
            .ok (Render.application c.name (Render.application "count" attr ++ ", " ++ arguments))
          else
            .ok (Render.application c.name (attr ++ Render.language c.lang ++ ", " ++ arguments))
        else if !c.uses.isEmpty then
          .ok (Render.application c.name (used ++ ", " ++ join ", " (c.arguments.map (·.value))))
        else .error (.emptyFunction node c.name) := by
  unfold renderLeaf leafPhrase Render.arguments?
  cases Render.argumentTerms? c with
  | none =>
    dsimp only [Option.map_none]
    split
    next => simp [Except.map, Function.comp_def]
    next =>
      split
      next => simp [Except.map]
      next => split <;> simp [Except.map, Function.comp_def]
  | some arguments =>
    dsimp only [Option.map_some]
    split
    next =>
      cases c.isValueVariable <;> cases c.isCount <;> simp [Except.map, String.append_assoc]
    next => split <;> simp [Except.map, Function.comp_def, String.append_assoc]

namespace Filter

/-- A connective with its operands as written. -/
def connect (op : String) (operands : List String) : String :=
  if prefixConnectives.contains op then op ++ " (" ++ join ", " operands ++ ")"
  else "(" ++ join (" " ++ op ++ " ") operands ++ ")"

/-- The texts of filters, one by one; the first fault decides. -/
def renderAll (node : String) (fs : List Filter) : Except RenderError (List String) :=
  (phrases node fs).map (List.map written)

theorem written_connectPhrase (op : String) (operands : List Phrase) :
    (connectPhrase op operands).written = connect op (operands.map written) := by
  unfold connectPhrase connect
  split <;> simp [written_listed, written_joined, String.append_assoc]

theorem render_leaf (node op : String) (operands : List Filter)
    (call : Call) :
    render node ⟨op, operands, some call⟩ =
      if op.isEmpty then call.renderLeaf node else .error (.ambiguousFilter node op) := by
  unfold render
  rw [phrase]
  split <;> rfl

theorem render_connective (node op : String) (operands : List Filter) :
    render node ⟨op, operands, none⟩ =
      if op.isEmpty then .error (.emptyConnective node "")
      else if operands.isEmpty then .error (.emptyConnective node op)
      else (renderAll node operands).map (connect op) := by
  unfold render
  rw [phrase]
  split
  next => rfl
  next =>
    split
    next => rfl
    next =>
      unfold renderAll
      cases phrases node operands with
      | error e => rfl
      | ok ts => exact congrArg Except.ok (written_connectPhrase op ts)

theorem renderAll_cons (node : String) (f : Filter)
    (rest : List Filter) :
    renderAll node (f :: rest) =
      match f.render node with
      | .error e => .error e
      | .ok text => (renderAll node rest).map (text :: ·) := by
  unfold renderAll render
  rw [phrases]
  cases f.phrase node with
  | error e => rfl
  | ok t =>
    cases phrases node rest with
    | error e => rfl
    | ok ts => rfl

end Filter

/-! ## Expressions -/

namespace MathExpr

/-- A text in brackets, unless it is enclosed already. -/
def bracket (text : String) : String := (bracketPhrase text).written

theorem bracket_eq (text : String) :
    bracket text = if encloses text.toList then text else "(" ++ text ++ ")" := by
  unfold bracket bracketPhrase
  split <;> simp [String.append_assoc]

theorem render_eq (node : String) (e : MathExpr) :
    e.render node = (e.toInfix node).map fun text => "math" ++ bracket text := by
  unfold render phrase
  cases e.toInfix node with
  | error e => rfl
  | ok text => exact congrArg Except.ok (written_append _ _)

end MathExpr

namespace Clause

/-! ## Facets -/

section Facets

/-- A facet key bound to a variable. -/
def facetBinding (variableName key : String) : String :=
  (facetBindingPhrase variableName key).written

/-- The order of facets, with the binding of its key; nothing if there is no order. -/
def facetOrderTexts (c : Clause) : List String := c.facetOrderPhrases.map written

/-- The bindings of facet keys other than the order key, in the order of the keys. -/
def facetBindingTexts (c : Clause) : List String := c.facetBindingPhrases.map written

/-- A facet key as asked for, behind the name it is reported under. -/
def facetKeyText (k : FacetKey) : String := (facetKeyPhrase k).written

/-- The facet keys that are asked for and neither bound nor ordered by. -/
def facetKeyTexts (c : Clause) (keys : List FacetKey) : List String :=
  (c.facetKeyPhrases keys).map written

theorem facetBinding_eq (variableName key : String) :
    facetBinding variableName key = variableName ++ " as " ++ key := by
  simp [facetBinding, facetBindingPhrase, String.append_assoc]

theorem facetOrderTexts_eq (c : Clause) :
    c.facetOrderTexts =
      if c.facetOrder.isEmpty then []
      else
        let key := match c.facetVariables.find? c.facetOrder with
          | some name => facetBinding name c.facetOrder
          | none => c.facetOrder
        [directionWord c.facetDescending ++ ": " ++ key] := by
  unfold facetOrderTexts facetOrderPhrases facetBinding
  split
  next => rfl
  next => cases c.facetVariables.find? c.facetOrder <;> simp

theorem facetBindingTexts_eq (c : Clause) :
    c.facetBindingTexts =
      (c.facetVariables.entries.filter fun e => e.1 != c.facetOrder).map fun e =>
        facetBinding e.2 e.1 := List.map_map

theorem facetKeyText_eq (k : FacetKey) :
    facetKeyText k = unlessEmpty k.aliasName (fun a => a ++ ": ") ++ k.key := by
  simp [facetKeyText, facetKeyPhrase]

theorem facetKeyTexts_eq (c : Clause) (keys : List FacetKey) :
    c.facetKeyTexts keys =
      (keys.filter fun k => !c.facetVariables.contains k.key && k.key != c.facetOrder).map
        facetKeyText := List.map_map

theorem facetDirective_eq (c : Clause) (hasChildren : Bool) :
    c.facetDirective hasChildren =
      c.facets.map fun request =>
        if request.allKeys then "@facets"
        else
          let parts := c.facetOrderTexts ++ c.facetBindingTexts ++ c.facetKeyTexts request.keys
          if parts.isEmpty then
            if hasChildren then "@facets()" else "@facets() \x7b \x7d"
          else "@facets(" ++ join ", " parts ++ ")" := by
  unfold facetDirective facetPhrase
  rw [Option.map_map]
  congr 1
  funext request
  have hparts : c.facetOrderTexts ++ c.facetBindingTexts ++ c.facetKeyTexts request.keys =
      (c.facetOrderPhrases ++ c.facetBindingPhrases ++ c.facetKeyPhrases request.keys).map
        written := by
    rw [List.map_append, List.map_append]
    rfl
  dsimp only [Function.comp_apply]
  rw [hparts, List.isEmpty_map]
  split
  next => exact written_mark _ _
  next =>
    split
    next => split <;> exact written_mark _ _
    next => simp only [written_append, written_mark, written_listed]

end Facets

theorem facetFilterDirective_eq (node : String) (c : Clause) :
    c.facetFilterDirective node =
      match c.facetFilter with
      | none => .ok none
      | some f => (f.render node).map fun text => some ("@facets(" ++ text ++ ")") := by
  unfold facetFilterDirective facetFilterPhrase Filter.render
  cases c.facetFilter with
  | none => rfl
  | some f =>
    dsimp only
    cases f.phrase node with
    | error e => rfl
    | ok t => simp [Except.map, String.append_assoc]

variable (c : Clause)

/-! ## Parts of a line -/

/-- The variable that the results are bound to. -/
def bindingText : String := c.bindingPhrase.written

/-- The alias in front of what it renames. -/
def aliasText : String := c.aliasPhrase.written

/-- The arguments of a node, by key. -/
def argumentTexts : List String := c.argumentPhrases.map written

/-- An ordering: by the value of a variable that the node uses, or by an attribute. -/
def orderText (kinds : Table String VariableKind) (o : Order) : String :=
  (orderPhrase kinds o).written

/-- The orderings of a node. -/
def orderTexts : List String := c.orderPhrases.map written

/-- Arguments and orderings in brackets; nothing if there are none. -/
def parameters : String := c.parameterPhrase.written

/-- What an attribute is expanded to: the variables that the node uses, or a name. -/
def expansion : String := c.expansionPhrase.written

/-- The attribute with its languages. -/
def attributeWithLanguages : String := c.attributePhrase.written

theorem bindingText_eq : c.bindingText = unlessEmpty c.variableName fun v => v ++ " as " := by
  simp [bindingText, bindingPhrase]

theorem aliasText_eq : c.aliasText = unlessEmpty c.aliasName fun a => a ++ ": " :=
  written_named c.aliasName

theorem argumentTexts_eq :
    c.argumentTexts = c.arguments.entries.map fun e => e.1 ++ ": " ++ e.2 := by
  simp [argumentTexts, argumentPhrases, Function.comp_def]

theorem orderText_eq (kinds : Table String VariableKind) (o : Order) :
    orderText kinds o =
      match kinds.find? o.attr with
      | some kind => o.direction ++ ": " ++ Render.valueOf (Render.variableOf o.attr kind)
      | none => o.direction ++ ": " ++ o.attr ++ Render.languages o.langs := by
  unfold orderText orderPhrase
  cases kinds.find? o.attr with
  | some kind => simp [Order.direction]
  | none => simp [Order.direction, String.append_assoc]

theorem orderTexts_eq : c.orderTexts = c.orders.map (orderText c.useKinds) := List.map_map

/-- Several parts in brackets, or nothing. -/
theorem parameters_eq :
    c.parameters =
      let parts := c.argumentTexts ++ c.orderTexts
      if parts.isEmpty then "" else "(" ++ join ", " parts ++ ")" := by
  have hparts : c.argumentTexts ++ c.orderTexts =
      (c.argumentPhrases ++ c.orderPhrases).map written := List.map_append.symm
  unfold parameters parameterPhrase
  dsimp only
  rw [hparts, List.isEmpty_map]
  split
  next => rfl
  next => simp only [written_append, written_mark, written_listed]

theorem expansion_eq :
    c.expansion =
      if c.expand.isEmpty then ""
      else if c.uses.isEmpty then "(" ++ c.expand ++ ")"
      else "(" ++ join ", " (c.uses.map Render.usedVariable) ++ ")" := by
  unfold expansion expansionPhrase
  split
  next => rfl
  next => split <;> simp [Function.comp_def, String.append_assoc]

theorem attributeWithLanguages_eq :
    c.attributeWithLanguages = Render.attributeText c.attr ++ Render.languages c.langs := by
  simp [attributeWithLanguages, attributePhrase]

/-! ## What a node is about -/

/-- The function that generates a node. -/
def functionText (call : Call) : Except RenderError String :=
  (c.functionPhrase call).map written

/-- The check of a password. -/
def passwordText (call : Call) : Except RenderError String :=
  (c.passwordPhrase call).map written

/-- The filter directive; none if the filter says nothing. -/
def filterDirective : Except RenderError (Option String) :=
  c.filterPhrase.map (Option.map written)

/-- The count of an attribute's values, with the filter inside. -/
def countText : Except RenderError String := c.countPhrase.map written

/-- An attribute with all that is asked of it. -/
def attributeLine : Except RenderError String := c.attributeLinePhrase.map written

/-- What the line of a node below a root says in front of its directives. -/
def body : Except RenderError String := c.bodyPhrase.map written

theorem functionArguments_eq (call : Call) :
    c.functionArguments call =
      if !c.ids.isEmpty && call.arguments.isEmpty then
        join ", " (c.ids.map Uid.format ++ call.uses.map (·.name))
      else
        match Render.arguments? call with
        | some arguments => arguments
        | none =>
          join ", "
            (call.uses.map fun u => if c.attr.isEmpty then Render.usedVariable u else u.name) := by
  unfold functionArguments functionTerms Render.arguments?
  split
  next => simp [Function.comp_def]
  next =>
    cases Render.argumentTerms? call with
    | some arguments => rfl
    | none => cases c.attr.isEmpty <;> simp [Function.comp_def]

theorem functionText_eq (call : Call) :
    c.functionText call =
      if call.name.isEmpty then .error (.emptyFunction c.label "")
      else
        let arguments := c.functionArguments call
        if !c.attr.isEmpty then
          if arguments.isEmpty then .ok (Render.application call.name c.attributeWithLanguages)
          else .ok (Render.application call.name (Render.application c.attr arguments))
        else if !call.attr.isEmpty then
          if call.isCount then
            .ok (Render.application call.name
              (Render.application "count" (Render.attributeText call.attr) ++ ", " ++ arguments))
          else
            let attr := Render.attributeText call.attr ++ Render.language call.lang
            if arguments.isEmpty then .ok (Render.application call.name attr)
            else .ok (Render.application call.name (attr ++ ", " ++ arguments))
        else .ok (Render.application call.name arguments) := by
  have harguments : join ", " ((c.functionTerms call).map (Term.text Uri.isAbsolute)) =
      c.functionArguments call := (written_terms _).symm
  have hattr : c.attributePhrase.written = c.attributeWithLanguages := rfl
  unfold functionText functionPhrase
  split
  next => rfl
  next =>
    dsimp only
    split
    next => split <;> simp [Except.map, harguments, hattr]
    next =>
      split
      next =>
        split
        next => simp [Except.map, harguments, String.append_assoc]
        next => split <;> simp [Except.map, harguments, String.append_assoc]
      next => simp [Except.map, harguments]

theorem passwordText_eq (call : Call) :
    c.passwordText call =
      if call.attr.isEmpty then .error (.emptyFunction c.label call.name)
      else
        match call.arguments with
        | [password] =>
          .ok (Render.application "checkpwd"
            (Render.attributeText call.attr ++ ", " ++ quote password.value))
        | other => .error (.checkPasswordArity c.label other.length) := by
  unfold passwordText passwordPhrase
  split
  next => rfl
  next =>
    match call.arguments with
    | [password] => simp [Except.map, String.append_assoc]
    | [] | _ :: _ :: _ => rfl

theorem filterDirective_eq :
    c.filterDirective =
      match c.filter with
      | none => .ok none
      | some f =>
        if f.isEmpty then .ok none
        else (f.render c.label).map fun text => some ("@filter(" ++ text ++ ")") := by
  unfold filterDirective filterPhrase Filter.render
  cases c.filter with
  | none => rfl
  | some f =>
    dsimp only
    split
    next => rfl
    next =>
      cases f.phrase c.label with
      | error e => rfl
      | ok t => simp [Except.map, String.append_assoc]

theorem countText_eq :
    c.countText =
      c.filterDirective.map fun directive =>
        Render.application "count"
          (c.attributeWithLanguages ++ c.parameters ++
            match directive with
            | some d => " " ++ d
            | none => "") := by
  unfold countText countPhrase filterDirective
  cases c.filterPhrase with
  | error e => rfl
  | ok directive =>
    cases directive <;>
      simp [Except.map, attributeWithLanguages, parameters, String.append_assoc]

theorem attributeLine_eq :
    c.attributeLine =
      if c.attr.isEmpty then
        if c.aliasName.isEmpty then .error .unnamedBlock else .ok (c.aliasName ++ "()")
      else .ok (c.aliasText ++ c.attributeWithLanguages ++ c.parameters ++ c.expansion) := by
  unfold attributeLine attributeLinePhrase
  split
  next => split <;> simp [Except.map]
  next =>
    simp only [Except.map, written_append, aliasText, attributeWithLanguages, parameters, expansion]

theorem body_eq :
    c.body =
      match c.call, c.math with
      | some call, _ =>
        (if call.name = "checkpwd" then c.passwordText call else c.functionText call).map
          (c.aliasText ++ ·)
      | none, some e => (e.render c.label).map (c.aliasText ++ ·)
      | none, none =>
        if c.isCount then c.countText.map (c.aliasText ++ ·)
        else if c.attr = "val" && !c.uses.isEmpty then
          .ok (c.aliasText ++ Render.application "val" (join ", " (c.uses.map (·.name))))
        else c.attributeLine := by
  have haliased : ∀ x : Except RenderError Phrase,
      (x.map (c.aliasPhrase ++ ·)).map written = (x.map written).map (c.aliasText ++ ·) := by
    intro x
    cases x with
    | error e => rfl
    | ok t => exact congrArg Except.ok (written_append _ _)
  unfold body bodyPhrase
  cases c.call with
  | some call =>
    dsimp only
    rw [haliased]
    split <;> rfl
  | none =>
    cases c.math with
    | some e => exact haliased _
    | none =>
      dsimp only
      split
      next => exact haliased _
      next =>
        split
        next => rw [Except.map, written_append, Render.written_values, List.map_map]; rfl
        next => rfl

/-! ## Directives -/

/-- The grouping directive; none if there is nothing to group by. -/
def groupDirective : Option String := c.groupPhrase.map written

/-- The directives that are flags. -/
def flagDirectives : List String := c.flagPhrases.map written

/-- The directives of a node, each behind a space. -/
def directives (withFilter hasChildren : Bool) : Except RenderError String :=
  (c.directivePhrase withFilter hasChildren).map written

theorem groupDirective_eq :
    c.groupDirective =
      if c.groupKeys.isEmpty then none
      else
        some (Render.application "@groupby" (join ", " (c.groupKeys.map fun g =>
          unlessEmpty g.aliasName (fun a => a ++ ": ") ++ g.attr ++
            Render.languages g.langs))) := by
  unfold groupDirective groupPhrase
  split
  next => rfl
  next => simp [written_listed, Function.comp_def, String.append_assoc]

theorem flagDirectives_eq :
    c.flagDirectives =
      (if c.normalize then ["@normalize"] else []) ++ (if c.cascade then ["@cascade"] else []) ++
        (if c.recurse then ["@recurse"] else []) ++
        (if c.ignoreReflex then ["@ignorereflex"] else []) := by
  unfold flagDirectives flagPhrases
  cases c.normalize <;> cases c.cascade <;> cases c.recurse <;> cases c.ignoreReflex <;> rfl

/-- The text of directives, each behind a space. -/
theorem written_directives (filter facetFilter : Option Phrase) (hasChildren : Bool) :
    (joined [] ((filter.toList ++ facetFilter.toList ++ (c.facetPhrase hasChildren).toList ++
        c.groupPhrase.toList ++ c.flagPhrases).map (mark " " ++ ·))).written =
      join "" (((filter.map written).toList ++ (facetFilter.map written).toList ++
        (c.facetDirective hasChildren).toList ++ c.groupDirective.toList ++
        c.flagDirectives).map (" " ++ ·)) := by
  have hspace : (fun t : Phrase => (mark " " ++ t).written) = fun t => " " ++ t.written :=
    funext fun t => written_append _ _
  have hlist : ∀ t : Option Phrase, t.toList.map written = (t.map written).toList := by
    intro t
    cases t <;> rfl
  rw [written_joined, List.map_map]
  simp only [Function.comp_def, hspace, facetDirective, groupDirective, flagDirectives, ← hlist,
    ← List.map_append, List.map_map]
  rfl

theorem directives_eq (withFilter hasChildren : Bool) :
    c.directives withFilter hasChildren = (do
      let filter ← if withFilter then c.filterDirective else .ok none
      let facetFilter ← c.facetFilterDirective c.label
      let all := filter.toList ++ facetFilter.toList ++ (c.facetDirective hasChildren).toList ++
        c.groupDirective.toList ++ c.flagDirectives
      return join "" (all.map (" " ++ ·))) := by
  unfold directives directivePhrase facetFilterDirective filterDirective
  cases withFilter with
  | false =>
    simp only [Bool.false_eq_true, if_false]
    cases c.facetFilterPhrase c.label with
    | error e => rfl
    | ok facetFilter => exact congrArg Except.ok (c.written_directives none facetFilter hasChildren)
  | true =>
    simp only [if_true]
    refine map_bind_eq fun filter => map_bind_eq fun facetFilter => ?_
    exact congrArg Except.ok (c.written_directives filter facetFilter hasChildren)

/-! ## Lines -/

/-- The line of a node below a root, without the bracket that opens its block. -/
def childLine (depth : Nat) (hasChildren : Bool) : Except RenderError String :=
  (c.childPhrase depth hasChildren).map written

/-- The line that opens the block of a root. -/
def rootLine (depth : Nat) (hasChildren : Bool) : Except RenderError String :=
  (c.rootPhrase depth hasChildren).map written

theorem childLine_eq (depth : Nat) (hasChildren : Bool) :
    c.childLine depth hasChildren = (do
      let body ← c.body
      let directives ← c.directives (!c.filterIsInBody) hasChildren
      return Text.indent depth ++ c.bindingText ++ body ++ directives) := by
  unfold childLine childPhrase body directives
  refine map_bind_eq fun body => map_bind_eq fun directives => ?_
  exact congrArg Except.ok (by simp [bindingText, String.append_assoc])

theorem rootLine_eq (depth : Nat) (hasChildren : Bool) :
    c.rootLine depth hasChildren = (do
      if c.resultName.isEmpty then throw .unnamedBlock
      let function ← match c.call with
        | some call => (c.functionText call).map fun text => ["func: " ++ text]
        | none => .ok []
      let parts := function ++ c.orderTexts ++ c.argumentTexts
      let directives ← c.directives true hasChildren
      return Text.indent depth ++ c.bindingText ++ c.resultName ++ "(" ++ join ", " parts ++ ")" ++
        directives ++ " \x7b") := by
  have hline : ∀ (function : List Phrase) (directives : Phrase),
      (Phrase.indent depth ++ c.bindingPhrase ++ own c.resultName ++ mark "(" ++
          listed (function ++ c.orderPhrases ++ c.argumentPhrases) ++ mark ")" ++ directives ++
          mark " \x7b").written =
        Text.indent depth ++ c.bindingText ++ c.resultName ++ "(" ++
          join ", " (function.map written ++ c.orderTexts ++ c.argumentTexts) ++ ")" ++
          directives.written ++ " \x7b" := by
    intro function directives
    simp only [written_append, written_indent, written_own, written_mark, written_listed,
      List.map_append, bindingText, orderTexts, argumentTexts]
  unfold rootLine rootPhrase directives
  cases hname : c.resultName.isEmpty with
  | true => rfl
  | false =>
    simp only [Bool.false_eq_true, if_false]
    cases c.call with
    | none =>
      cases c.directivePhrase true hasChildren with
      | error e => rfl
      | ok directives => exact congrArg Except.ok (hline [] directives)
    | some call =>
      dsimp only
      unfold functionText
      cases c.functionPhrase call with
      | error e => rfl
      | ok t =>
        cases c.directivePhrase true hasChildren with
        | error e => rfl
        | ok directives =>
          refine congrArg Except.ok ((hline [mark "func: " ++ t] directives).trans ?_)
          rw [List.map_singleton, written_append, written_mark]

end Clause

/-! ## Blocks -/

/-- The line that closes a block. -/
def closingLine (depth : Nat) : String := (closingPhrase depth).written

theorem closingLine_eq (depth : Nat) : closingLine depth = Text.indent depth ++ "\x7d" := by
  simp [closingLine, closingPhrase]

namespace Query

/-- The lines of a node below a root. -/
def childLines (depth : Nat) (q : Query) : Except RenderError (List String) :=
  (q.childPhrases depth).map (List.map Phrase.written)

/-- The lines of nodes below a root, one by one; the first fault decides. -/
def allChildLines (depth : Nat) (qs : List Query) : Except RenderError (List String) :=
  (allChildPhrases depth qs).map (List.map Phrase.written)

/-- The lines of a root. -/
def rootLines (depth : Nat) (q : Query) : Except RenderError (List String) :=
  (q.rootPhrases depth).map (List.map Phrase.written)

/-- The lines of roots, one by one; the first fault decides. -/
def allRootLines (depth : Nat) (qs : List Query) : Except RenderError (List String) :=
  (allRootPhrases depth qs).map (List.map Phrase.written)

theorem childLines_eq (depth : Nat) (clause : Clause) (fallback : Option Json)
    (children : List Query) :
    childLines depth ⟨clause, fallback, children⟩ =
      match clause.childLine depth (!children.isEmpty) with
      | .error e => .error e
      | .ok line =>
        if clause.isInternal || children.isEmpty then .ok [line]
        else
          (allChildLines (depth + 1) children).map fun lines =>
            (line ++ " \x7b") :: lines ++ [closingLine depth] := by
  unfold childLines
  rw [childPhrases]
  unfold Clause.childLine allChildLines
  cases clause.childPhrase depth (!children.isEmpty) with
  | error e => rfl
  | ok line =>
    show (if _ then _ else _ : Except _ _).map _ = if _ then _ else _
    split
    next => rfl
    next =>
      cases allChildPhrases (depth + 1) children with
      | error e => rfl
      | ok lines => simp [Except.map, closingLine]

theorem allChildLines_cons (depth : Nat) (q : Query) (rest : List Query) :
    allChildLines depth (q :: rest) =
      match q.childLines depth with
      | .error e => .error e
      | .ok lines => (allChildLines depth rest).map (lines ++ ·) := by
  unfold allChildLines childLines
  rw [allChildPhrases]
  cases q.childPhrases depth with
  | error e => rfl
  | ok lines =>
    cases allChildPhrases depth rest with
    | error e => rfl
    | ok more => exact congrArg Except.ok List.map_append

theorem rootLines_eq (depth : Nat) (q : Query) :
    q.rootLines depth = (do
      let line ← q.clause.rootLine depth (!q.children.isEmpty)
      let lines ← allChildLines (depth + 1) q.children
      return line :: lines ++ [closingLine depth]) := by
  unfold rootLines rootPhrases Clause.rootLine allChildLines
  refine map_bind_eq fun line => map_bind_eq fun lines => ?_
  exact congrArg Except.ok (by simp [closingLine])

theorem allRootLines_cons (depth : Nat) (q : Query) (rest : List Query) :
    allRootLines depth (q :: rest) = (do
      let lines ← q.rootLines depth
      let more ← allRootLines depth rest
      return lines ++ more) := by
  unfold allRootLines rootLines
  rw [allRootPhrases]
  refine map_bind_eq fun lines => map_bind_eq fun more => ?_
  exact congrArg Except.ok List.map_append

end Query

namespace Block

/-- The line that opens a request. -/
def header (b : Block) : String := b.headerPhrase.written

/-- The lines of a block. -/
def lines (b : Block) : Except RenderError (List String) := b.phrases.map (List.map Phrase.written)

theorem header_eq (b : Block) :
    b.header =
      let operation := "query" ++ unlessEmpty b.aliasName fun a => " " ++ a
      if !b.variableTypes.isEmpty then
        let declared := b.variableTypes.entries.map fun e => e.1 ++ ": " ++ e.2
        operation ++ "(" ++ join ", " declared ++ ") \x7b"
      else if !b.aliasName.isEmpty then operation ++ " \x7b"
      else "\x7b" := by
  unfold header headerPhrase
  dsimp only
  split
  next => simp [written_listed, Function.comp_def, String.append_assoc]
  next => split <;> simp [String.append_assoc]

theorem lines_eq (b : Block) :
    b.lines = (Query.allRootLines 1 b.queries).map fun lines => b.header :: lines ++ ["\x7d"] := by
  unfold lines phrases Query.allRootLines
  cases Query.allRootPhrases 1 b.queries with
  | error e => rfl
  | ok ts => simp [Except.map, header]

theorem render_eq (b : Block) :
    b.render = (do
      Scope.check b.queries
      let lines ← b.lines
      return normalize (join "\n" lines)) := by
  unfold render renderUnder phrase lines
  cases Scope.check b.queries with
  | error e => rfl
  | ok _ =>
    cases b.phrases with
    | error e => rfl
    | ok ts => exact congrArg (fun t => Except.ok (normalize t)) (written_joined _ ts)

end Block

end Dql
