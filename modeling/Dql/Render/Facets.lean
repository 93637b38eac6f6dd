import Dql.Render.Filter

/-!
# The text of facet directives

What a node wants of its facets is spread over its clause: the keys it asks for,
the variables that keys are bound to, and one key to order by. They are written
as one directive: the order first, then the bindings in the order of their keys,
then the keys as asked for. A key is written by one of the three only: the order
key carries its own binding, and a key that is bound or ordered by is not listed
again.
-/

namespace Dql

namespace Clause

open Phrase

/-- A facet key bound to a variable. -/
def facetBindingPhrase (variableName key : String) : Phrase :=
  own variableName ++ mark " as " ++ own key

/-- The order of facets, with the binding of its key; nothing if there is no order. -/
def facetOrderPhrases (c : Clause) : List Phrase :=
  if c.facetOrder.isEmpty then []
  else
    let key := match c.facetVariables.find? c.facetOrder with
      | some name => facetBindingPhrase name c.facetOrder
      | none => own c.facetOrder
    [direction c.facetDescending ++ key]

/-- The bindings of facet keys other than the order key, in the order of the keys. -/
def facetBindingPhrases (c : Clause) : List Phrase :=
  (c.facetVariables.entries.filter fun e => e.1 != c.facetOrder).map fun e =>
    facetBindingPhrase e.2 e.1

/-- A facet key as asked for, behind the name it is reported under. -/
def facetKeyPhrase (k : FacetKey) : Phrase := named k.aliasName ++ own k.key

/-- The facet keys that are asked for and neither bound nor ordered by. -/
def facetKeyPhrases (c : Clause) (keys : List FacetKey) : List Phrase :=
  (keys.filter fun k => !c.facetVariables.contains k.key && k.key != c.facetOrder).map
    facetKeyPhrase

/-- The facet directive of a node; none if it asks for no facets. A node without
children that asks for nothing in particular closes an empty block behind it. -/
def facetPhrase (c : Clause) (hasChildren : Bool) : Option Phrase :=
  c.facets.map fun request =>
    if request.allKeys then mark "@facets"
    else
      let parts := c.facetOrderPhrases ++ c.facetBindingPhrases ++ c.facetKeyPhrases request.keys
      if parts.isEmpty then
        if hasChildren then mark "@facets()" else mark "@facets() \x7b \x7d"
      else mark "@facets(" ++ listed parts ++ mark ")"

/-- The text of the facet directive of a node. -/
def facetDirective (c : Clause) (hasChildren : Bool) : Option String :=
  (c.facetPhrase hasChildren).map written

/-- The directive for a filter on facets; none if there is no such filter. -/
def facetFilterPhrase (node : String) (c : Clause) :
    Except RenderError (Option Phrase) :=
  match c.facetFilter with
  | none => .ok none
  | some f => (f.phrase node).map fun t => some (mark "@facets(" ++ t ++ mark ")")

/-- The text of the directive for a filter on facets. -/
def facetFilterDirective (node : String) (c : Clause) :
    Except RenderError (Option String) :=
  (c.facetFilterPhrase node).map (Option.map written)

end Clause

end Dql
