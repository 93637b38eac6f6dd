import Dql.Uri.Label.Composition
import Dql.Uri.Label.Direction
import Dql.Uri.Label.Folding
import Dql.Uri.Label.Joining
import Dql.Uri.Punycode

/-!
# Labels

The name of a host is made of labels with dots between them. A name is folded to what names
are compared by and composed (`folded?`); each label of what comes out is then read: one
behind `xn--` is the code of another, which has to hold more than ASCII and to be folded and
composed already. A label may not start with a mark, its joiners have to stand where they may,
and a name that holds anything written to the left has labels of one direction only.
-/

namespace Dql.Uri.Label

/-- A text as names are compared; none if a character cannot stand in a name. -/
def folded? (text : List Char) : Option (List Char) := (foldAll? text).map compose

/-- What a folded label says. -/
def read? : List Char → Option (List Char)
  | 'x' :: 'n' :: '-' :: '-' :: code => do
    let label := (← Punycode.decode? code).map Char.ofNat
    if label.any (fun c => 0x80 ≤ c.toNat) ∧ folded? label = some label then some label else none
  | label => some label

/-- Whether the characters of a label may stand in this order. -/
def isWellFormed (label : List Char) : Bool :=
  !label.head?.any isMark && joinersFit [] label

/-- Whether labels are those of one name. -/
def areTogether (labels : List (List Char)) : Bool :=
  !labels.any (fun label => label.any turnsLeft) ||
    labels.all fun label => isOneWay (label.map Direction.of)

/-- Whether the labels of a folded name are what they say. -/
def areRead (labels : List (List Char)) : Bool :=
  match labels.mapM read? with
  | some labels => labels.all isWellFormed && areTogether labels
  | none => false

end Dql.Uri.Label
