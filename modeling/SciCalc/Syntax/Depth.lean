/-
# SciCalc.Syntax.Depth -- the stack depth of postfix tokens

How deep the stack is after each token depends on the tokens alone: an operand adds
one value, an operator or a function needs its arity and leaves one.  The count stops
at the first token that would find too few.
-/
import SciCalc.Syntax.Token

namespace SciCalc.Syntax

set_option autoImplicit false

/-- How many values a token takes from the stack; none for a token that has no place
among postfix tokens or means nothing. -/
def Token.needs? : Token → Option Nat
  | number _ | var _ => some 0
  | constant name => (constant? name).map fun _ => 0
  | operator symbol unary => (operationOf? symbol unary).map Operation.arity
  | function name => (Fn.ofName? name).map Fn.arity
  | lparen | rparen | comma => none

/-- A token that finds too few values on the stack. -/
structure Shortage where
  token : Token
  needed : Nat
  depth : Nat
deriving DecidableEq

/-- The depth after postfix tokens on a stack of a given depth, or the first
shortage.  Tokens that mean nothing count as operands. -/
def depthAfter : Nat → List Token → Except Shortage Nat
  | depth, [] => .ok depth
  | depth, t :: ts =>
      let needed := t.needs?.getD 0
      if depth < needed then .error ⟨t, needed, depth⟩ else depthAfter (depth - needed + 1) ts

end SciCalc.Syntax
