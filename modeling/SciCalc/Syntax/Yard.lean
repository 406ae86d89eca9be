/-
# SciCalc.Syntax.Yard -- from infix to postfix order

Operands go to the output at once.  Operators, functions and opening parentheses are
held back on a stack.  An operator first sends out the operators on top of the stack
that bind the operand between them (`Operation.yieldsTo`); a comma or a closing
parenthesis sends out everything above the nearest opening one.

For every open parenthesis a group remembers the function directly before it, if
any, and the commas met inside.  When it closes, a function must have received as many
arguments as it takes, and parentheses without a function must hold no comma; then
the function follows its arguments to the output.

Popping an empty stack is a fault like any other here (`Fault.emptyStack`).
-/
import SciCalc.Syntax.Reading

namespace SciCalc.Syntax

set_option autoImplicit false

/-- An open parenthesis: the function it belongs to and the commas inside so far. -/
structure Group where
  caller : Option String
  commas : Nat
deriving DecidableEq, Repr

structure Yard where
  /-- The output, latest token first. -/
  output : List Token
  /-- The stack, topmost token first. -/
  held : List Token
  /-- The open parentheses, innermost first. -/
  groups : List Group
deriving DecidableEq

namespace Yard

/-- Nothing read. -/
def start : Yard := ⟨[], [], []⟩

def emit (y : Yard) (t : Token) : Yard := { y with output := t :: y.output }

/-- Send out the tokens on top of the stack as long as a condition holds. -/
def sendWhile (y : Yard) (condition : Token → Bool) : Yard :=
  { y with
    output := (y.held.takeWhile condition).reverse ++ y.output
    held := y.held.dropWhile condition }

/-- Send out everything above the nearest opening parenthesis. -/
def sendInner (y : Yard) : Yard := y.sendWhile (!·.isLParen)

def hold (y : Yard) (t : Token) : Yard := { y with held := t :: y.held }

/-- Whether an arriving operation sends a held token out first. -/
def sends (arriving : Operation) (t : Token) : Bool :=
  match t.operation? with
  | some operation => arriving.yieldsTo operation
  | none => false

def operator (y : Yard) (t : Token) (operation : Operation) : Yard :=
  if operation.postfixed then y.emit t else (y.sendWhile (sends operation)).hold t

def comma (y : Yard) : Except Fault Yard :=
  let y := y.sendInner
  match y.held, y.groups with
  | [], _ => .error .commaOutsideParens
  | _ :: _, [] => .error .emptyStack
  | _ :: _, group :: groups =>
      .ok { y with groups := { group with commas := group.commas + 1 } :: groups }

/-- The function whose name is on top of the stack. -/
def callerOf : List Token → Option String
  | .function name :: _ => some name
  | _ => none

def openGroup (y : Yard) : Yard :=
  { y with held := .lparen :: y.held, groups := ⟨callerOf y.held, 0⟩ :: y.groups }

/-- A group ends, its parenthesis already taken off the stack. -/
def closeGroup (y : Yard) (group : Group) : Except Fault Yard :=
  match group.caller with
  | none => if group.commas = 0 then .ok y else .error .commaOutsideCall
  | some name =>
      match Fn.ofName? name with
      | none => .error (.noEntry name)
      | some f =>
          if group.commas + 1 = f.arity then
            match y.held with
            | [] => .error .emptyStack
            | t :: held => .ok { y with output := t :: y.output, held := held }
          else .error (.wrongArguments name f.arity (group.commas + 1))

def rparen (y : Yard) : Except Fault Yard :=
  let y := y.sendInner
  match y.held, y.groups with
  | [], _ => .error .mismatchedParens
  | _ :: _, [] => .error .emptyStack
  | _ :: held, group :: groups => closeGroup { y with held := held, groups := groups } group

def step (y : Yard) (t : Token) : Except Fault Yard :=
  match t with
  | .number _ | .constant _ | .var _ => .ok (y.emit t)
  | .function _ => .ok (y.hold t)
  | .operator symbol unary =>
      match Token.operationOf? symbol unary with
      | some operation => .ok (y.operator t operation)
      | none => .error (.noEntry symbol)
  | .lparen => .ok y.openGroup
  | .rparen => y.rparen
  | .comma => y.comma

/-- The end of the input: the output, unless a parenthesis is still open. -/
def finish (y : Yard) : Except Fault (List Token) :=
  if y.held.any Token.isParen then .error .mismatchedParens
  else .ok (y.held.reverse ++ y.output).reverse

end Yard

def toPostfix (tokens : List Token) : Except Fault (List Token) := do
  let y ← tokens.foldlM Yard.step Yard.start
  y.finish

def parse [Digits] (strict : Bool) (text : String) : Calc (List Token) := do
  let tokens ← tokenize strict text
  Report.note (.tokens tokens)
  let ordered ← Report.ofExcept (toPostfix tokens)
  Report.note (.postfixOrder ordered)
  return ordered

end SciCalc.Syntax
