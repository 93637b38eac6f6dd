import Dql.Json.Document
import Dql.Json.Literal
import Dql.Text.Lossy

/-!
# Reading JSON

A text is split into tokens (`JsonToken.scan?`), and the tokens are put together
with a stack of the containers that are still open (`Document.ofTokens?`). Both
walks go once over their input. The blanks of JSON are the space, the line feed,
the carriage return and the tab; nothing may stand in front of the value or
behind it but blanks.

Containers nest at most 127 deep; a deeper one is well formed but unreadable, and
so are a string with half a surrogate pair or with bytes that are not UTF-8, and a
number beyond double precision.
-/

namespace Dql

/-- A token of JSON text. -/
inductive JsonToken where
  | openArray
  | closeArray
  | openObject
  | closeObject
  | comma
  | colon
  | null
  | bool (b : Bool)
  /-- A number; none if it has no value. -/
  | number (n : Option Number)
  /-- A string; none if it holds half a surrogate pair. -/
  | string (s : Option String) (escaped : Bool)
deriving Repr

namespace JsonToken

/-- The blanks of JSON. -/
def isBlank (c : Char) : Bool := c == ' ' || c == '\n' || c == '\r' || c == '\t'

/-- A piece of a string: a character, itself or behind a backslash, or a sixteen-bit unit
written in hexadecimal. -/
inductive Piece where
  | char (c : Char)
  | escape (c : Char)
  | unit (n : Nat)
deriving Repr

/-- The value of a hexadecimal digit. -/
def hexValue? (c : Char) : Option Nat :=
  if '0' ≤ c ∧ c ≤ '9' then some (c.toNat - '0'.toNat)
  else if 'a' ≤ c ∧ c ≤ 'f' then some (c.toNat - 'a'.toNat + 10)
  else if 'A' ≤ c ∧ c ≤ 'F' then some (c.toNat - 'A'.toNat + 10)
  else none

/-- The unit that four hexadecimal digits write. -/
def unit? (a b c d : Char) : Option Nat := do
  return (((← hexValue? a) * 16 + (← hexValue? b)) * 16 + (← hexValue? c)) * 16 + (← hexValue? d)

/-- The character that a letter behind a backslash stands for. -/
def escape? (c : Char) : Option Char :=
  if c = '"' then some '"'
  else if c = '\\' then some '\\'
  else if c = '/' then some '/'
  else if c = 'b' then some '\x08'
  else if c = 'f' then some '\x0c'
  else if c = 'n' then some '\n'
  else if c = 'r' then some '\r'
  else if c = 't' then some '\t'
  else none

/-- Splits a string behind its closing quote. None if there is none, or a control
character or an unknown escape stands in front of it. -/
def splitString : List Char → Option (List Piece × List Char)
  | [] => none
  | '"' :: rest => some ([], rest)
  | '\\' :: 'u' :: a :: b :: c :: d :: rest => do
    let n ← unit? a b c d
    let (pieces, rest) ← splitString rest
    return (.unit n :: pieces, rest)
  | '\\' :: c :: rest => do
    let e ← escape? c
    let (pieces, rest) ← splitString rest
    return (.escape e :: pieces, rest)
  | c :: rest => do
    if c.toNat < 0x20 ∨ c = '\\' then none
    let (pieces, rest) ← splitString rest
    return (.char c :: pieces, rest)

/-- Whether a unit is the first half of a surrogate pair. -/
def isHighSurrogate (n : Nat) : Bool := 0xD800 ≤ n && n ≤ 0xDBFF

/-- Whether a unit is the second half of a surrogate pair. -/
def isLowSurrogate (n : Nat) : Bool := 0xDC00 ≤ n && n ≤ 0xDFFF

/-- The characters of a string, two halves of a surrogate pair making one; none if
a half stands alone. -/
def assemble? : List Piece → Option (List Char)
  | [] => some []
  | .char c :: rest => (assemble? rest).map (c :: ·)
  | .escape c :: rest => (assemble? rest).map (c :: ·)
  | .unit h :: .unit l :: rest =>
    if isHighSurrogate h then
      if isLowSurrogate l then
        (assemble? rest).map (Char.ofNat (0x10000 + (h - 0xD800) * 0x400 + (l - 0xDC00)) :: ·)
      else none
    else if isLowSurrogate h then none
    else (assemble? (.unit l :: rest)).map (Char.ofNat h :: ·)
  | .unit n :: rest =>
    if isHighSurrogate n || isLowSurrogate n then none
    else (assemble? rest).map (Char.ofNat n :: ·)

/-- Whether a piece is written as an escape. -/
def Piece.isEscape : Piece → Bool
  | char _ => false
  | escape _ => true
  | unit _ => true

/-- The leading decimal digits, as numbers. -/
def digitsOf (cs : List Char) : List Nat :=
  (cs.takeWhile Char.isDigit).map fun c => c.toNat - '0'.toNat

/-- What stands behind the leading decimal digits. -/
def behindDigits (cs : List Char) : List Char := cs.dropWhile Char.isDigit

/-- Splits the whole digits of a number off. A zero in front stands alone. -/
def splitWhole : List Char → Option (List Nat × List Char)
  | '0' :: rest =>
    match rest with
    | c :: _ => if c.isDigit then none else some ([0], rest)
    | [] => some ([0], [])
  | c :: rest => if c.isDigit then some (digitsOf (c :: rest), behindDigits (c :: rest)) else none
  | [] => none

/-- Splits the digits behind a point off, if there is a point. -/
def splitFraction : List Char → Option (Option (List Nat) × List Char)
  | '.' :: rest =>
    if (digitsOf rest).isEmpty then none else some (some (digitsOf rest), behindDigits rest)
  | cs => some (none, cs)

/-- Splits the digits of a power off, behind its sign. -/
def splitPowerDigits (down : Bool) (cs : List Char) :
    Option (Option (Bool × List Nat) × List Char) :=
  if (digitsOf cs).isEmpty then none else some (some (down, digitsOf cs), behindDigits cs)

/-- Splits a power of ten off, if there is one. -/
def splitPower : List Char → Option (Option (Bool × List Nat) × List Char)
  | c :: rest =>
    if c = 'e' ∨ c = 'E' then
      match rest with
      | '+' :: digits => splitPowerDigits false digits
      | '-' :: digits => splitPowerDigits true digits
      | digits => splitPowerDigits false digits
    else some (none, c :: rest)
  | [] => some (none, [])

/-- Splits a number literal off. -/
def splitNumber (cs : List Char) : Option (NumberLiteral × List Char) := do
  let (negative, cs) := match cs with
    | '-' :: rest => (true, rest)
    | _ => (false, cs)
  let (whole, cs) ← splitWhole cs
  let (fraction, cs) ← splitFraction cs
  let (power, cs) ← splitPower cs
  return (⟨negative, whole, fraction, power⟩, cs)

/-- The token that a text starts with, and the text behind it. -/
def next? : List Char → Option (JsonToken × List Char)
  | '[' :: rest => some (openArray, rest)
  | ']' :: rest => some (closeArray, rest)
  | '\x7b' :: rest => some (openObject, rest)
  | '\x7d' :: rest => some (closeObject, rest)
  | ',' :: rest => some (comma, rest)
  | ':' :: rest => some (colon, rest)
  | 'n' :: 'u' :: 'l' :: 'l' :: rest => some (null, rest)
  | 't' :: 'r' :: 'u' :: 'e' :: rest => some (bool true, rest)
  | 'f' :: 'a' :: 'l' :: 's' :: 'e' :: rest => some (bool false, rest)
  | '"' :: rest => do
    let (pieces, rest) ← splitString rest
    return (string ((assemble? pieces).map String.ofList) (pieces.any Piece.isEscape), rest)
  | cs => do
    let (literal, rest) ← splitNumber cs
    return (number literal.number?, rest)

/-- Reads a text as tokens. The fuel is the length of the text: every token takes
at least one character. -/
def scanWithin : Nat → List Char → Option (List JsonToken)
  | 0, cs => if cs.isEmpty then some [] else none
  | fuel + 1, cs =>
    match cs with
    | [] => some []
    | c :: rest =>
      if isBlank c then scanWithin fuel rest
      else
        match next? cs with
        | none => none
        | some (token, rest') => (scanWithin fuel rest').map (token :: ·)

/-- The tokens of a text; none if a piece of it is no token. -/
def scan? (cs : List Char) : Option (List JsonToken) := scanWithin cs.length cs

end JsonToken

namespace Document

/-- A container that is still open, its parts in reverse. -/
inductive Frame where
  | array (items : List Document)
  /-- An object with the key whose value is being read; none if the key is unreadable. -/
  | object (members : List (Option MemberKey × Document)) (key : Option MemberKey)

/-- What may come next. -/
inductive Expecting where
  /-- A value. -/
  | value
  /-- A value, or the end of a list that was just opened. -/
  | firstItem
  /-- A key, or the end of an object that was just opened. -/
  | firstKey (members : List (Option MemberKey × Document))
  /-- A key. -/
  | key (members : List (Option MemberKey × Document))
  /-- The colon behind a key. -/
  | colon
  /-- A comma, or the end of the innermost container. -/
  | more
  /-- Nothing: the document is complete. -/
  | nothing (document : Document)

/-- The deepest nesting of containers that can be read. -/
def maxDepth : Nat := 127

/-- A container closed inside `depth` others; it is unreadable if that is too deep. -/
def close (depth : Nat) (container : Document) : Document :=
  if depth < maxDepth then container else unreadable

/-- The keys with their documents, if every key is readable. -/
def namedMembers? : List (Option MemberKey × Document) → Option (List (MemberKey × Document))
  | [] => some []
  | (some k, d) :: rest => (namedMembers? rest).map ((k, d) :: ·)
  | (none, _) :: _ => none

/-- An object of the members read, in reverse; unreadable if a key is. -/
def ofMembers (members : List (Option MemberKey × Document)) : Document :=
  match namedMembers? members.reverse with
  | some ms => object ms
  | none => unreadable

/-- Puts a finished document into the innermost open container. -/
def put (d : Document) : List Frame → Expecting × List Frame
  | [] => (.nothing d, [])
  | .array items :: stack => (.more, .array (d :: items) :: stack)
  | .object members key :: stack => (.more, .object ((key, d) :: members) key :: stack)

/-- What a token does when a value may start. -/
def startValue (stack : List Frame) : JsonToken → Option (Expecting × List Frame)
  | .openArray => some (.firstItem, .array [] :: stack)
  | .openObject => some (.firstKey [], stack)
  | .null => some (put null stack)
  | .bool b => some (put (bool b) stack)
  | .number n => some (put (n.elim unreadable number) stack)
  | .string s _ => some (put (s.elim unreadable string) stack)
  | _ => none

/-- What a token does to the open containers. -/
def step (state : Expecting) (stack : List Frame) (token : JsonToken) :
    Option (Expecting × List Frame) :=
  match state with
  | .value => startValue stack token
  | .firstItem =>
    match token, stack with
    | .closeArray, .array _ :: outer => some (put (close outer.length (array [])) outer)
    | _, _ => startValue stack token
  | .firstKey members =>
    match token with
    | .closeObject => some (put (close stack.length (ofMembers members)) stack)
    | .string s escaped => some (.colon, .object members (s.map (⟨·, escaped⟩)) :: stack)
    | _ => none
  | .key members =>
    match token with
    | .string s escaped => some (.colon, .object members (s.map (⟨·, escaped⟩)) :: stack)
    | _ => none
  | .colon =>
    match token with
    | .colon => some (.value, stack)
    | _ => none
  | .more =>
    match token, stack with
    | .comma, .array _ :: _ => some (.value, stack)
    | .closeArray, .array items :: outer =>
      some (put (close outer.length (array items.reverse)) outer)
    | .comma, .object members _ :: outer => some (.key members, outer)
    | .closeObject, .object members _ :: outer =>
      some (put (close outer.length (ofMembers members)) outer)
    | _, _ => none
  | .nothing _ => none

/-- Puts tokens together, from a state and the containers open in it. -/
def build (state : Expecting) (stack : List Frame) : List JsonToken → Option Document
  | [] =>
    match state with
    | .nothing d => some d
    | _ => none
  | token :: rest =>
    match step state stack token with
    | some (state, stack) => build state stack rest
    | none => none

/-- The document that tokens make up; none if they make up no value, or more than one. -/
def ofTokens? (tokens : List JsonToken) : Option Document := build .value [] tokens

/-- Reads a document. -/
def ofText? (text : String) : Option Document := do
  ofTokens? (← JsonToken.scan? text.toList)

/-- What is put for bytes that are not UTF-8: like those it belongs into strings only, and
makes them unreadable. -/
def foreignBytes : List Char := "x\\udc00".toList

/-- Reads a document from bytes. Only strings may hold bytes that are not UTF-8; such a string
is unreadable. -/
def ofBytes? (bytes : ByteArray) : Option Document := do
  ofTokens? (← JsonToken.scan? (Text.decodeWith foreignBytes bytes.toList))

end Document

namespace Json

/-- Reads a value: a document in which nothing is unreadable. -/
def ofText? (text : String) : Option Json := do
  (← Document.ofText? text).value?

/-- Reads a value from bytes, which have to be UTF-8. -/
def ofBytes? (bytes : ByteArray) : Option Json := do
  ofText? (← String.fromUTF8? bytes)

/-- The bytes of a text are read as its characters are. -/
theorem ofBytes?_ofList (cs : List Char) :
    ofBytes? (String.ofList cs).toUTF8
      = ((JsonToken.scan? cs).bind Document.ofTokens?).bind Document.value? := by
  have hvalid : String.fromUTF8? (String.ofList cs).toUTF8 = some (String.ofList cs) :=
    dif_pos (String.ofList cs).isValidUTF8
  unfold ofBytes?
  rw [hvalid]
  show ofText? (String.ofList cs) = _
  unfold ofText? Document.ofText?
  rw [String.toList_ofList]
  rfl

end Json

end Dql
