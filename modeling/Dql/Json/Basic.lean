import Dql.Double.Basic
import Dql.Table

/-!
# JSON values

A value is a scalar, a list or an object. A number is an exact integer or a
double, and the two never mean the same number, not even 1 and 1.0. An object
lists its members; a value that was read lists them in the order of the keys,
each key once, while a value that is about to be written may list them in any
order its writer wants shown.

`Json.same` is equality of values up to the sign of zero. `Json.sortKeys` puts
the members of all objects in the order of their keys.
-/

namespace Dql

/-- A JSON number. -/
inductive Number where
  /-- An integer, exact. -/
  | int (n : Int)
  /-- Any other number, in double precision. -/
  | double (x : Double)
deriving DecidableEq, Repr

/-- The same number: two integers, or two doubles up to the sign of zero. -/
def Number.same : Number → Number → Bool
  | int m, int n => m == n
  | double x, double y => x.same y
  | _, _ => false

/-- A JSON value. -/
inductive Json where
  | null
  | bool (b : Bool)
  | number (n : Number)
  | string (s : String)
  | array (items : List Json)
  | object (members : List (String × Json))
deriving Inhabited, Repr

namespace Json

/-- A member of an object. -/
def member? (key : String) (members : List (String × Json)) : Option Json :=
  SortedEntries.find? key members

/-- Whether a value is `null`. -/
def isNull : Json → Bool
  | null => true
  | _ => false

/-- The integer `n`. -/
def ofNat (n : Nat) : Json := number (.int n)

mutual

/-- The same value: numbers up to the sign of zero, lists item by item, objects
member by member. -/
def same : Json → Json → Bool
  | null, null => true
  | bool a, bool b => a == b
  | number m, number n => m.same n
  | string s, string t => s == t
  | array xs, array ys => sameItems xs ys
  | object ms, object ns => sameMembers ms ns
  | _, _ => false

/-- The same values, item by item. -/
def sameItems : List Json → List Json → Bool
  | [], [] => true
  | x :: xs, y :: ys => x.same y && sameItems xs ys
  | _, _ => false

/-- The same members in the same order. -/
def sameMembers : List (String × Json) → List (String × Json) → Bool
  | [], [] => true
  | (k, x) :: ms, (l, y) :: ns => k == l && x.same y && sameMembers ms ns
  | _, _ => false

end

mutual

/-- The value with the members of every object in the order of the keys, the
last of a repeated key winning. -/
def sortKeys : Json → Json
  | array xs => array (sortItems xs)
  | object ms => object (SortedEntries.ofList (sortMembers ms))
  | scalar => scalar

/-- Each value with its members sorted. -/
def sortItems : List Json → List Json
  | [] => []
  | x :: xs => x.sortKeys :: sortItems xs

/-- Each member's value with its members sorted. -/
def sortMembers : List (String × Json) → List (String × Json)
  | [] => []
  | (k, x) :: ms => (k, x.sortKeys) :: sortMembers ms

end

end Json

end Dql
