import Dql.Json.Document
import Dql.Query.Basic

/-!
# Records in JSON

A record is written as an object of its fields. It is read from such an object,
or from a list of field values in the order in which the fields are declared. The
rules are the same for every record:

* a member that names no field is skipped, whatever it holds;
* a field may have further names it is known by, but may be given only once;
* a field that is not given keeps its initial value, unless it is required;
* a list may end early, but may not be longer than the fields.

Members are read in the order of the document, and the first that cannot be read
decides the error. A record may have one field that holds a list of records of
its own type; `Record.read` is structural in the document, so that the tree types
need no recursion of their own to be read.
-/

namespace Dql

/-- Why a document cannot be read as a record. -/
inductive DecodeError where
  /-- The document does not have the form of the record. -/
  | malformed
  /-- The kind of a variable is a number that stands for none. -/
  | unknownKind (code : Nat)
deriving DecidableEq, Repr

/-- The wording of a reading failure, where there is one. -/
def DecodeError.message? : DecodeError → Option String
  | malformed => none
  | unknownKind code => some s!"unknown variable kind {code}"

/-- A way to read values of a type from documents. -/
abbrev Reading (α : Type) := Document → Except DecodeError α

namespace Reading

/-- Reads a text. -/
def text : Reading String
  | .string s => .ok s
  | _ => .error .malformed

/-- Reads a truth value. -/
def flag : Reading Bool
  | .bool b => .ok b
  | _ => .error .malformed

/-- Reads an identifier: an integer of 64 bits without sign. -/
def uid : Reading Uid
  | .number (.int n) =>
    if 0 ≤ n ∧ n.toNat < UInt64.size then .ok (UInt64.ofNat n.toNat) else .error .malformed
  | _ => .error .malformed

/-- Reads an integer of 32 bits with sign. -/
def int32 : Reading Int32
  | .number (.int n) =>
    if Int32.minValue.toInt ≤ n ∧ n ≤ Int32.maxValue.toInt then .ok (Int32.ofInt n)
    else .error .malformed
  | _ => .error .malformed

/-- Reads the number of a variable kind, one byte. -/
def kind : Reading VariableKind
  | .number (.int n) =>
    if 0 ≤ n ∧ n.toNat < UInt8.size then
      match VariableKind.ofCode? n.toNat with
      | some k => .ok k
      | none => .error (.unknownKind n.toNat)
    else .error .malformed
  | _ => .error .malformed

/-- Reads any value. -/
def value : Reading Json := fun d =>
  match d.value? with
  | some j => .ok j
  | none => .error .malformed

/-- Reads something that may be `null` for none. -/
def optional {α : Type} (r : Reading α) : Reading (Option α)
  | .null => .ok none
  | d => (r d).map some

/-- Reads something for which `null` stands for a given value. -/
def orNull {α : Type} (r : Reading α) (ifNull : α) : Reading α
  | .null => .ok ifNull
  | d => r d

/-- Reads the items of a list one by one. -/
def items {α : Type} (r : Reading α) : List Document → Except DecodeError (List α)
  | [] => .ok []
  | d :: rest =>
    match r d with
    | .error e => .error e
    | .ok x => (items r rest).map (x :: ·)

/-- Reads a list. -/
def list {α : Type} (r : Reading α) : Reading (List α)
  | .array ds => items r ds
  | _ => .error .malformed

/-- Reads the members of an object one by one, their keys with `key`. -/
def members {κ α : Type} (key : MemberKey → Option κ) (r : Reading α) :
    List (MemberKey × Document) → Except DecodeError (List (κ × α))
  | [] => .ok []
  | (k, d) :: rest =>
    match key k with
    | none => .error .malformed
    | some k =>
      match r d with
      | .error e => .error e
      | .ok x => (members key r rest).map ((k, x) :: ·)

/-- Reads an object as a table; the last of a repeated key wins. -/
def table {κ α : Type} [Ord κ] [Std.TransOrd κ] [Std.LawfulEqOrd κ]
    (key : MemberKey → Option κ) (r : Reading α) : Reading (Table κ α)
  | .object ms => (members key r ms).map Table.ofList
  | _ => .error .malformed

/-- An identifier as a key: the digits of an integer as JSON writes it. -/
def uidKey (k : MemberKey) : Option Uid :=
  match k.escaped, k.text.toList with
  | true, _ => none
  | false, [] => none
  | false, '0' :: _ :: _ => none
  | false, c :: rest => if c.isDigit then Uid.ofDecimal? (String.ofList (c :: rest)) else none

/-- Reads a table of texts. -/
def texts : Reading (Table String String) := table (fun k => some k.text) text

end Reading

/-- A field of a record of type `α`. -/
inductive Field (α : Type) where
  /-- A field read on its own: its names, the first of them the one it is written
  under, and how its value changes the record. -/
  | plain (names : List String) (required : Bool) (set : Reading (α → α))
  /-- A field that holds a list of records of the same type; `nullable` says
  whether `null` stands for the empty list. -/
  | nested (names : List String) (nullable : Bool) (set : List α → α → α)

namespace Field

variable {α : Type}

/-- The names of a field. -/
def names : Field α → List String
  | plain names _ _ => names
  | nested names _ _ => names

/-- Whether a record cannot do without the field. -/
def isRequired : Field α → Bool
  | plain _ required _ => required
  | nested _ _ _ => false

/-- A field whose value is read by `r`. -/
def of {β : Type} (names : List String) (r : Reading β) (set : β → α → α) : Field α :=
  plain names false fun d => (r d).map set

/-- A field that has to be given. -/
def required {β : Type} (names : List String) (r : Reading β) (set : β → α → α) : Field α :=
  plain names true fun d => (r d).map set

end Field

/-- A type of records: a record in which no field is given, and the fields in the
order in which they are declared. -/
structure Record (α : Type) where
  initial : α
  fields : List (Field α)

namespace Record

variable {α : Type}

/-- The field of a name, with its place among the fields. -/
def find? (name : String) : List (Field α) → Nat → Option (Nat × Field α)
  | [], _ => none
  | f :: rest, i => if f.names.contains name then some (i, f) else find? name rest (i + 1)

/-- Whether every required field is among the places seen. -/
def complete (seen : List Nat) : List (Field α) → Nat → Bool
  | [], _ => true
  | f :: rest, i => (!f.isRequired || seen.contains i) && complete seen rest (i + 1)

/-- The record, if no required field is missing. -/
def finish (r : Record α) (seen : List Nat) (x : α) : Except DecodeError α :=
  if complete seen r.fields 0 then .ok x else .error .malformed

mutual

/-- Reads a record. -/
def read (r : Record α) : Document → Except DecodeError α
  | .object ms => readMembers r r.initial [] ms
  | .array ds => readItems r r.initial [] r.fields ds
  | _ => .error .malformed

/-- Reads the members of an object into a record; `seen` holds the places of the
fields that were given. -/
def readMembers (r : Record α) (x : α) (seen : List Nat) :
    List (MemberKey × Document) → Except DecodeError α
  | [] => r.finish seen x
  | (k, d) :: rest =>
    match find? k.text r.fields 0 with
    | none => readMembers r x seen rest
    | some (i, .plain _ _ set) =>
      if seen.contains i then .error .malformed
      else
        match set d with
        | .error e => .error e
        | .ok f => readMembers r (f x) (i :: seen) rest
    | some (i, .nested _ nullable set) =>
      if seen.contains i then .error .malformed
      else
        match readNested r nullable d with
        | .error e => .error e
        | .ok xs => readMembers r (set xs x) (i :: seen) rest

/-- Reads list items into the fields that are left; the places seen grow by one each. -/
def readItems (r : Record α) (x : α) (seen : List Nat) :
    List (Field α) → List Document → Except DecodeError α
  | _, [] => r.finish seen x
  | [], _ :: _ => .error .malformed
  | .plain _ _ set :: fields, d :: rest =>
    match set d with
    | .error e => .error e
    | .ok f => readItems r (f x) (seen.length :: seen) fields rest
  | .nested _ nullable set :: fields, d :: rest =>
    match readNested r nullable d with
    | .error e => .error e
    | .ok xs => readItems r (set xs x) (seen.length :: seen) fields rest

/-- Reads the records of a nested field. -/
def readNested (r : Record α) (nullable : Bool) : Document → Except DecodeError (List α)
  | .array ds => readAll r ds
  | .null => if nullable then .ok [] else .error .malformed
  | _ => .error .malformed

/-- Reads records one by one. -/
def readAll (r : Record α) : List Document → Except DecodeError (List α)
  | [] => .ok []
  | d :: rest =>
    match read r d with
    | .error e => .error e
    | .ok x => (readAll r rest).map (x :: ·)

end

/-- Reading a nested field reads its items as records of their own. -/
theorem readAll_eq_items (r : Record α) (ds : List Document) :
    r.readAll ds = Reading.items r.read ds := by
  induction ds with
  | nil => rfl
  | cons d rest ih => rw [readAll, Reading.items, ih]

end Record

/-! ## Writing records -/

namespace Json

/-- The member for a text, unless it is empty. -/
def textMember (key value : String) : List (String × Json) :=
  if value.isEmpty then [] else [(key, string value)]

/-- The member for a flag, unless it is down. -/
def flagMember (key : String) (value : Bool) : List (String × Json) :=
  if value then [(key, bool true)] else []

/-- The member for something that may be missing, unless it is. -/
def optionMember {α : Type} (key : String) (value : Option α) (write : α → Json) :
    List (String × Json) :=
  match value with
  | some x => [(key, write x)]
  | none => []

/-- The member for a list of written values, unless it is empty. -/
def listMember (key : String) (values : List Json) : List (String × Json) :=
  if values.isEmpty then [] else [(key, array values)]

/-- A table of texts, as an object. -/
def ofTexts (t : Table String String) : Json := object (t.entries.map fun e => (e.1, string e.2))

/-- The member for a table of texts, unless it is empty. -/
def textsMember (key : String) (t : Table String String) : List (String × Json) :=
  if t.isEmpty then [] else [(key, ofTexts t)]

/-- An identifier, as an integer. -/
def ofUid (uid : Uid) : Json := ofNat uid.toNat

/-- An identifier as a key: its decimal digits. -/
def uidKey (uid : Uid) : String := String.ofList (Nat.toDigits 10 uid.toNat)

/-- An integer of 32 bits. -/
def ofInt32 (n : Int32) : Json := number (.int n.toInt)

end Json

end Dql
