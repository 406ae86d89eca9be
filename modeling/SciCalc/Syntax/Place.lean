/-
# SciCalc.Syntax.Place -- where tokens stand

Whether a token stands in place depends on the token before it alone.  An operand
begins where an operator would have nothing on its left (`inPrefixPosition`), and so
do a function's name and a group; the parenthesis of a call stands directly behind
the name.  Operators between operands, the factorial, commas and closing parentheses
stand behind a complete operand, and so does the end.  The product of a leading minus
stands behind its `-1`.

Putting an expression into postfix order looks at none of this.
-/
import SciCalc.Syntax.Grouping

namespace SciCalc.Syntax

set_option autoImplicit false

/-- Whether an operand is complete after this token. -/
def completes : Option Token → Bool
  | some (.number _) | some (.constant _) | some (.var _) | some .rparen => true
  | some (.operator symbol unary) =>
      match Token.operationOf? symbol unary with
      | some operation => operation.postfixed
      | none => false
  | _ => false

/-- Whether a token can stand directly behind another one, or at the beginning. -/
def Token.follows (previous : Option Token) : Token → Bool
  | number _ | constant _ | var _ | function _ => inPrefixPosition previous
  | lparen => inPrefixPosition previous || (functionOf previous).isSome
  | rparen | comma => completes previous
  | operator symbol true => symbol == "×" && previous == some (number (-1.0))
  | operator _ false => completes previous

/-- Whether all tokens stand in place, and an operand is complete at the end. -/
def inPlace (previous : Option Token) : List Token → Bool
  | [] => completes previous
  | t :: ts => t.follows previous && inPlace (some t) ts

/-- Whether every function's name has an opening parenthesis directly behind it. -/
def callsOpen : List Token → Bool
  | [] => true
  | .function _ :: ts => ts.head? == some .lparen && callsOpen ts
  | _ :: ts => callsOpen ts

end SciCalc.Syntax
