/-!
# Why a tree has no text

The faults that keep a query tree from being written as text, each with the node
it is found at, and their wording.
-/

namespace Dql

/-- Why a tree cannot be written as query text. -/
inductive RenderError where
  /-- A node has neither alias nor attribute. -/
  | unnamedBlock
  /-- A call has nothing to be about. -/
  | emptyFunction (node function : String)
  /-- A filter has both an operator and a call. -/
  | ambiguousFilter (node op : String)
  /-- A filter operator has no operands, or a filter has neither operator nor call. -/
  | emptyConnective (node op : String)
  /-- A mathematical operator has no operands. -/
  | emptyMathOperator (node op : String)
  /-- A mathematical operand is neither a constant nor a variable. -/
  | emptyMathOperand (node : String)
  /-- A password check has not exactly one argument. -/
  | checkPasswordArity (node : String) (found : Nat)
  /-- A variable is used that no node of the block declares. -/
  | undefinedVariable (node name : String)
deriving DecidableEq, Repr

/-- The wording of a fault. -/
def RenderError.message : RenderError → String
  | unnamedBlock => "query node has neither alias nor attribute to name it"
  | emptyFunction node function =>
    s!"function `{function}` on `{node}` has no attribute, identifiers or variables to render"
  | ambiguousFilter node op => s!"filter on `{node}` sets both operator `{op}` and a function"
  | emptyConnective node op => s!"filter operator `{op}` on `{node}` has no operands"
  | emptyMathOperator node op => s!"math operator `{op}` on `{node}` has no operands"
  | emptyMathOperand node =>
    s!"math operand on `{node}` carries neither a constant nor a variable"
  | checkPasswordArity node found =>
    s!"checkpwd on `{node}` takes exactly one argument, found {found}"
  | undefinedVariable node name =>
    s!"variable `{name}` used by `{node}` is not defined anywhere in the block"

end Dql
