import Dql.Shell.Numeral
import Dql.Shell.State

/-!
# Arithmetic

An expression has integers of 64 bits that wrap, variables, and the operators of a C
expression but for those that change a variable by one. It is evaluated while it is read, so
of several faults the first one shows; what a condition leaves out is read but has no effect.
-/

namespace Dql.Shell.Arithmetic

/-- A token of an expression. -/
inductive Token where
  | number (n : Int64)
  | name (b : Bytes)
  | operator (s : String)
  /-- No token at all. -/
  | other
deriving DecidableEq, Repr

/-- The operators, longer ones in front of those they start with. -/
def operators : List String := [
  "<<=", ">>=", "<<", "<=", ">>", ">=", "==", "!=", "&&", "&=", "||", "|=", "*=", "/=", "%=",
  "+=", "-=", "^=", "<", ">", "=", "!", "&", "|", "*", "/", "%", "+", "-", "^", "~", "(", ")",
  "?", ":"]

/-- The token that bytes start with, and what follows; none at the end. -/
def token? (bytes : Bytes) : Option (Token × Bytes) :=
  match bytes with
  | [] => none
  | c :: rest =>
    if c.isDigit then
      let (n, rest) := Numeral.integer false bytes
      some (.number (Int64.ofInt (min n Numeral.greatest)), rest)
    else if startsName c then
      let (name, rest) := splitName bytes
      some (.name name, rest)
    else
      match operators.find? fun o => o.toList.isPrefixOf bytes with
      | some o => some (.operator o, bytes.drop o.length)
      | none => some (.other, rest)

/-- The tokens of an expression, so many at most. -/
def tokens : Nat → Bytes → List Token
  | 0, _ => []
  | n + 1, bytes =>
    match token? (bytes.dropWhile fun c => c == ' ' || c == '\t' || c == '\n') with
    | none => []
    | some (t, rest) => t :: tokens n rest

/-- An expression that is being read: its text, and the tokens that are left. -/
structure Reading where
  text : Bytes
  rest : List Token

/-- An action on an expression. -/
abbrev Eval := StateT Reading Exec

/-- Complains of an expression. -/
def fail {α : Type} (message : String) : Eval α := do
  Exec.fail (say s!"arithmetic expression: {message}: \"" ++ (← get).text ++ ['"'])

/-- The next token. -/
def peek : Eval (Option Token) := return (← get).rest.head?

/-- Passes over a token. -/
def skip : Eval Unit := modify fun r => { r with rest := r.rest.tail }

/-- The value of a variable as an integer. -/
def variableValue (name : Bytes) : Exec Int64 := do
  let value := ((← Exec.shell).value? name).getD []
  match Numeral.whole? false value with
  | some n => return Int64.ofInt n
  | none => Exec.fail (say "Illegal number: " ++ value)

/-- The number of a truth value. -/
def ofBool (b : Bool) : Int64 := if b then 1 else 0

/-- The rank of an operator between two operands; a lower one binds more tightly. -/
def rank? (operator : String) : Option Nat :=
  ([("*", 0), ("/", 0), ("%", 0), ("+", 1), ("-", 1), ("<<", 2), (">>", 2), ("<", 3), ("<=", 3),
    (">", 3), (">=", 3), ("==", 4), ("!=", 4), ("&", 5), ("^", 6), ("|", 7)].find? fun e =>
      e.1 == operator).map (·.2)

/-- The rank above all others. -/
def topRank : Nat := 8

/-- Applies an operator. -/
def apply (operator : String) (a b : Int64) : Eval Int64 :=
  match operator with
  | "*" => return a * b
  | "/" => if b = 0 then fail "division by zero" else return a / b
  | "%" => if b = 0 then fail "division by zero" else return a % b
  | "+" => return a + b
  | "-" => return a - b
  | "<<" => return a <<< b
  | ">>" => return a >>> b
  | "<" => return ofBool (a < b)
  | "<=" => return ofBool (a ≤ b)
  | ">" => return ofBool (b < a)
  | ">=" => return ofBool (b ≤ a)
  | "==" => return ofBool (a = b)
  | "!=" => return ofBool (a ≠ b)
  | "&" => return a &&& b
  | "^" => return a ^^^ b
  | _ => return a ||| b

/-- The operator that an assignment applies; empty for one that applies none. -/
def assigned? (operator : String) : Option String :=
  if ["=", "*=", "/=", "%=", "+=", "-=", "<<=", ">>=", "&=", "^=", "|="].contains operator then
    some (String.ofList operator.toList.dropLast)
  else none

/-- The next operator between two operands, with its rank. -/
def nextOperator : Eval (Option (String × Nat)) := do
  match ← peek with
  | some (.operator o) => return (rank? o).map fun r => (o, r)
  | _ => return none

mutual

/-- Evaluates an operand; `live` says whether it has effects. -/
def primary (live : Bool) : Nat → Eval Int64
  | 0 => fail "expecting primary"
  | n + 1 => do
    match ← peek with
    | some (.number x) =>
      skip
      return x
    | some (.name b) =>
      skip
      if live then variableValue b else return 0
    | some (.operator "(") =>
      skip
      let x ← assignment live n
      match ← peek with
      | some (.operator ")") =>
        skip
        return x
      | _ => fail "expecting ')'"
    | some (.operator "+") =>
      skip
      primary live n
    | some (.operator "-") =>
      skip
      return -(← primary live n)
    | some (.operator "!") =>
      skip
      return ofBool ((← primary live n) = 0)
    | some (.operator "~") =>
      skip
      return ~~~(← primary live n)
    | _ => fail "expecting primary"

/-- Evaluates on behind an operand and an operator, up to an operator of a rank. -/
def binaryFrom (live : Bool) (a : Int64) (operator : String) (rank bound : Nat) :
    Nat → Eval Int64
  | 0 => fail "expecting primary"
  | n + 1 => do
    skip
    let b ← primary live n
    let b ← match ← nextOperator with
      | some (o, r) => if r < rank then binaryFrom live b o r rank n else pure b
      | none => pure b
    let x ← if live then apply operator a b else pure b
    match ← nextOperator with
    | some (o, r) => if r < bound then binaryFrom live x o r bound n else return x
    | none => return x

/-- Evaluates operands with operators between two of them. -/
def binary (live : Bool) : Nat → Eval Int64
  | 0 => fail "expecting primary"
  | n + 1 => do
    let a ← primary live n
    match ← nextOperator with
    | some (o, r) => binaryFrom live a o r topRank n
    | none => return a

/-- Evaluates what has to hold together. -/
def conjunction (live : Bool) : Nat → Eval Int64
  | 0 => fail "expecting primary"
  | n + 1 => do
    let a ← binary live n
    match ← peek with
    | some (.operator "&&") =>
      skip
      let b ← conjunction (live && a != 0) n
      return ofBool (a != 0 && b != 0)
    | _ => return a

/-- Evaluates what has to hold in one part. -/
def disjunction (live : Bool) : Nat → Eval Int64
  | 0 => fail "expecting primary"
  | n + 1 => do
    let a ← conjunction live n
    match ← peek with
    | some (.operator "||") =>
      skip
      let b ← disjunction (live && a == 0) n
      return ofBool (a != 0 || b != 0)
    | _ => return a

/-- Evaluates a choice. -/
def choice (live : Bool) : Nat → Eval Int64
  | 0 => fail "expecting primary"
  | n + 1 => do
    let a ← disjunction live n
    match ← peek with
    | some (.operator "?") =>
      skip
      let b ← assignment (live && a != 0) n
      match ← peek with
      | some (.operator ":") =>
        skip
        let c ← choice (live && a == 0) n
        return if a != 0 then b else c
      | _ => fail "expecting ':'"
    | _ => return a

/-- Evaluates an assignment, or anything else. -/
def assignment (live : Bool) : Nat → Eval Int64
  | 0 => fail "expecting primary"
  | n + 1 => do
    match (← get).rest with
    | .name b :: .operator o :: rest =>
      match assigned? o with
      | none => choice live n
      | some inner =>
        modify fun r => { r with rest := rest }
        let value ← assignment live n
        if !live then return value
        let value ← if inner = "" then pure value
          else apply inner (← variableValue b) value
        Exec.setVariable b (.ofInt value.toInt)
        return value
    | _ => choice live n

end

/-- Evaluates an expression. -/
def evaluate (text : Bytes) : Exec Int64 := do
  let rest := tokens (text.length + 1) text
  let all : Eval Int64 := do
    let x ← assignment true (10 * rest.length + 10)
    match ← peek with
    | some _ => fail "expecting EOF"
    | none => return x
  let (x, _) ← all.run ⟨text, rest⟩
  return x

end Dql.Shell.Arithmetic
