import Dql.Json.Printer
import Dql.Render.Error
import Dql.Render.Piece

/-!
# The text of mathematical expressions

An expression is written in infix form behind the word `math`: an operator stands
between its operands in brackets, a few functions are written as calls, and the
unary minus stands in front. The whole stands in brackets, which are added only
if the first bracket of the text is not already closed by its last character
(`MathExpr.encloses`).
-/

namespace Dql

namespace MathExpr

/-- How an operator is put to its operands. -/
inductive Style where
  /-- A minus sign in front. -/
  | negation
  /-- A call by a name. -/
  | application (name : String)
  /-- The operator between operands. -/
  | infixed
deriving DecidableEq, Repr

/-- The style of an operator. -/
def styleOf (fn : String) : Style :=
  if fn = "u-" then .negation
  else if ["ln", "exp", "max", "sqrt", "cond"].contains fn then .application fn
  else .infixed

/-- An operator with its operands as written. -/
def apply (fn : String) (operands : List String) : String :=
  match styleOf fn with
  | .negation => "-" ++ Text.join "," operands
  | .application name => name ++ "(" ++ Text.join "," operands ++ ")"
  | .infixed => "(" ++ Text.join fn operands ++ ")"

/-- The text of a constant: a string as it is, any other value as JSON. -/
def constantText : Json → String
  | .string s => s
  | other => other.compact

/-- The text of an operand: its constant if it has one, else its variable. -/
def operandText (node name : String) (constant : Scalar) : Except RenderError String :=
  if !constant.isEmpty then .ok (constantText constant.value)
  else if !name.isEmpty then .ok name
  else .error (.emptyMathOperand node)

mutual

/-- The infix text of an expression. -/
def toInfix (node : String) : MathExpr → Except RenderError String
  | ⟨fn, name, constant, _, operands⟩ =>
    if fn.isEmpty then operandText node name constant
    else if operands.isEmpty then .error (.emptyMathOperator node fn)
    else (allToInfix node operands).map (apply fn)

/-- The infix texts of expressions, one by one; the first fault decides. -/
def allToInfix (node : String) : List MathExpr → Except RenderError (List String)
  | [] => .ok []
  | e :: rest =>
    match e.toInfix node with
    | .error e => .error e
    | .ok text => (allToInfix node rest).map (text :: ·)

end

/-- Whether the bracket that brings the depth back to zero is the last character.
A closing bracket too many does not lower the depth below zero. -/
def closesAtEnd (depth : Nat) : List Char → Bool
  | [] => false
  | '(' :: rest => closesAtEnd (depth + 1) rest
  | ')' :: rest => if depth ≤ 1 then rest.isEmpty else closesAtEnd (depth - 1) rest
  | _ :: rest => closesAtEnd depth rest

/-- Whether a text starts with a bracket that its last character closes. -/
def encloses (cs : List Char) : Bool :=
  cs.head? == some '(' && closesAtEnd 0 cs

/-- A text in brackets, unless it is enclosed already. -/
def bracketPhrase (text : String) : Phrase :=
  if encloses text.toList then Phrase.own text
  else Phrase.mark "(" ++ Phrase.own text ++ Phrase.mark ")"

/-- An expression. Nothing in it is quoted, so all of its infix text is one piece. -/
def phrase (node : String) (e : MathExpr) : Except RenderError Phrase :=
  (e.toInfix node).map fun text => Phrase.mark "math" ++ bracketPhrase text

/-- The text of an expression. -/
def render (node : String) (e : MathExpr) : Except RenderError String :=
  (e.phrase node).map Phrase.written

end MathExpr

end Dql
