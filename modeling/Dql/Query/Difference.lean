import Dql.Json.Printer
import Dql.Query.Codec

/-!
# Where two trees differ

Two lists of queries are compared by what is written for them in JSON, in the
order of the document: the members of objects in the order of their keys, a
missing member standing for `null`; the items of lists one by one, then their
number. The first place at which they differ is described by its path and the two
values found there.
-/

namespace Dql

namespace Json

/-- The description of two values that differ at a path. -/
def differText (path : String) (expected parsed : Json) : String :=
  s!"{path}: expected {expected.compact}, parsed {parsed.compact}"

/-- Describes two values at a path, unless they are the same. -/
def differAt (path : String) (expected parsed : Json) : Option String :=
  if expected.same parsed then none else some (differText path expected parsed)

/-- The description of the first member that is there on one side only, and not `null`. -/
def extraMember (path : String) (members : List (String × Json)) : Option String :=
  members.findSome? fun m => differAt (path ++ "." ++ m.1) .null m.2

mutual

/-- The description of the first place at which two values differ, below a path. -/
def firstDifference (path : String) : Json → Json → Option String
  | object ms, object ns => memberDifference path ms ns
  | array xs, array ys =>
    (itemDifference path 0 xs ys).or
      (if xs.length = ys.length then none
        else some s!"{path}: expected {xs.length} entries, parsed {ys.length}")
  | expected, parsed => differAt path expected parsed

/-- The first difference between the items of two lists that both of them have. -/
def itemDifference (path : String) (index : Nat) : List Json → List Json → Option String
  | x :: xs, y :: ys =>
    (firstDifference s!"{path}[{index}]" x y).or (itemDifference path (index + 1) xs ys)
  | _, _ => none

/-- The first difference between the members of two objects, both in the order of
their keys. -/
def memberDifference (path : String) :
    List (String × Json) → List (String × Json) → Option String
  | [], ns => extraMember path ns
  | (k, x) :: ms, ns =>
    let before := ns.takeWhile fun n => compare n.1 k == .lt
    let rest := ns.dropWhile fun n => compare n.1 k == .lt
    (extraMember path before).or
      (match rest with
      | (l, y) :: ns' =>
        if l = k then
          (firstDifference (path ++ "." ++ k) x y).or (memberDifference path ms ns')
        else (differAt (path ++ "." ++ k) x .null).or (memberDifference path ms rest)
      | [] => (differAt (path ++ "." ++ k) x .null).or (memberDifference path ms []))

end

end Json

/-- The description of the first place at which the queries that a parser reports
differ from those expected. -/
def Query.describeDifference (expected parsed : List Query) : String :=
  let written (qs : List Query) : Json := (Json.array (Query.allToJson qs)).sortKeys
  (Json.firstDifference "queries" (written expected) (written parsed)).getD "trees differ"

end Dql
