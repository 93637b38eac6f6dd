import Dql.Json.Basic

/-!
# JSON documents

A document is what a JSON text says as it is written: the members of an object
in the order of the text, repeated ones included. A few texts are well formed
and still have no value: a number beyond double precision, half of a surrogate
pair, containers nested deeper than 127. Such a piece is kept as `unreadable`,
since a reader that skips the member it stands in never notices.

`Document.value?` is the value of a document in which nothing is unreadable.
Records are read from documents, so that a record read from a text and one read
from a value follow one set of rules; `Json.document` is the document of a value,
and its value is the value again up to the order of members
(`value?_document`).
-/

namespace Dql

/-- The key of a member. -/
structure MemberKey where
  text : String
  /-- Whether an escape is used to write it. -/
  escaped : Bool := false
deriving DecidableEq, Inhabited, Repr

/-- A JSON text as written. -/
inductive Document where
  | null
  | bool (b : Bool)
  | number (n : Number)
  | string (s : String)
  | array (items : List Document)
  | object (members : List (MemberKey × Document))
  /-- A well-formed piece of text that has no value. -/
  | unreadable
deriving Inhabited, Repr

namespace Document

mutual

/-- The value of a document; the last of a repeated key wins. None if a piece is
unreadable. -/
def value? : Document → Option Json
  | null => some .null
  | bool b => some (.bool b)
  | number n => some (.number n)
  | string s => some (.string s)
  | array items => (itemValues? items).map .array
  | object members => (memberValues? members).map fun ms => .object (SortedEntries.ofList ms)
  | unreadable => none

/-- The values of the items of a list. -/
def itemValues? : List Document → Option (List Json)
  | [] => some []
  | d :: rest => do
    let x ← value? d
    let xs ← itemValues? rest
    return x :: xs

/-- The values of the members of an object. -/
def memberValues? : List (MemberKey × Document) → Option (List (String × Json))
  | [] => some []
  | (k, d) :: rest => do
    let x ← value? d
    let xs ← memberValues? rest
    return (k.text, x) :: xs

end

end Document

namespace Json

mutual

/-- The document that says a value. -/
def document : Json → Document
  | null => .null
  | bool b => .bool b
  | number n => .number n
  | string s => .string s
  | array items => .array (itemDocuments items)
  | object members => .object (memberDocuments members)

/-- The documents of the items of a list. -/
def itemDocuments : List Json → List Document
  | [] => []
  | x :: rest => document x :: itemDocuments rest

/-- The documents of the members of an object. -/
def memberDocuments : List (String × Json) → List (MemberKey × Document)
  | [] => []
  | (k, x) :: rest => (⟨k, false⟩, document x) :: memberDocuments rest

end

end Json

mutual

/-- The document of a value has that value, its members in order. -/
theorem value?_document : ∀ j : Json, j.document.value? = some j.sortKeys
  | .null => rfl
  | .bool _ => rfl
  | .number _ => rfl
  | .string _ => rfl
  | .array items => by
    rw [Json.document, Document.value?, itemValues?_document items, Json.sortKeys]; rfl
  | .object members => by
    rw [Json.document, Document.value?, memberValues?_document members, Json.sortKeys]; rfl

theorem itemValues?_document :
    ∀ items : List Json,
      Document.itemValues? (Json.itemDocuments items) = some (Json.sortItems items)
  | [] => rfl
  | x :: rest => by
    rw [Json.itemDocuments, Document.itemValues?, value?_document x, itemValues?_document rest,
      Json.sortItems]
    rfl

theorem memberValues?_document :
    ∀ members : List (String × Json),
      Document.memberValues? (Json.memberDocuments members) = some (Json.sortMembers members)
  | [] => rfl
  | (k, x) :: rest => by
    rw [Json.memberDocuments, Document.memberValues?, value?_document x,
      memberValues?_document rest, Json.sortMembers]
    rfl

end

end Dql
