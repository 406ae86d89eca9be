/-
# SciCalc.Syntax.Grouping -- parentheses and commas, looked at alone

A scan from left to right that keeps nothing but the open parentheses: for each of
them the function directly before it, if there is one, and the commas directly
inside.  It finds the first fault in the order of the tokens: a comma or a closing
parenthesis that is inside nothing, a group whose commas do not fit what is in front
of it, and at the end a parenthesis still open.  Operands and operators do not
matter to it.
-/
import SciCalc.Syntax.Yard

namespace SciCalc.Syntax

set_option autoImplicit false

def functionOf : Option Token → Option String
  | some (.function name) => some name
  | _ => none

/-- The fault of a group that closes, if its commas do not fit. -/
def Group.fault? (g : Group) : Option Fault :=
  match g.caller with
  | none => if g.commas = 0 then none else some .commaOutsideCall
  | some name =>
      match Fn.ofName? name with
      | none => some (.noEntry name)
      | some f =>
          if g.commas + 1 = f.arity then none
          else some (.wrongArguments name f.arity (g.commas + 1))

/-- The first fault in the grouping of tokens, given the open groups, innermost
first, and the token before. -/
def groupingFault? : List Group → Option Token → List Token → Option Fault
  | [], _, [] => none
  | _ :: _, _, [] => some .mismatchedParens
  | groups, previous, .lparen :: ts =>
      groupingFault? (⟨functionOf previous, 0⟩ :: groups) (some .lparen) ts
  | [], _, .comma :: _ => some .commaOutsideParens
  | group :: groups, _, .comma :: ts =>
      groupingFault? ({ group with commas := group.commas + 1 } :: groups) (some .comma) ts
  | [], _, .rparen :: _ => some .mismatchedParens
  | group :: groups, _, .rparen :: ts =>
      match group.fault? with
      | some fault => some fault
      | none => groupingFault? groups (some .rparen) ts
  | groups, _, t :: ts => groupingFault? groups (some t) ts

end SciCalc.Syntax
