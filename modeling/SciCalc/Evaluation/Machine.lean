/-
# SciCalc.Evaluation.Machine -- running postfix tokens on a stack

An operand is pushed.  An operator or a function pops as many values as it takes and
pushes its result; the values popped are in reverse of source order.  A function of
angles gets its argument in radians, an inverse one has its result converted back.

A run starts with an empty stack, whatever was on it before, and must end with one
value.  A token that fails leaves the stack as it found it, except that the operands
of a rule without a value are gone.
-/
import SciCalc.Evaluation.Context
import SciCalc.Evaluation.Rule
import SciCalc.Syntax.Yard

namespace SciCalc

set_option autoImplicit false

open SciCalc.Syntax (Token Operation Fn)

/-- A context and a stack, topmost value first. -/
structure Machine where
  context : Context
  stack : List Float

/-- A fault and the stack it leaves. -/
structure Halt where
  fault : Fault
  stack : List Float

namespace Machine

def new (context : Context) : Machine := ⟨context, []⟩

/-- The operands of a consumer in source order, and the stack without them. -/
def pop (stack : List Float) (needed : Nat) (consumer : String) :
    Except Halt (List Float × List Float) :=
  if stack.length < needed then
    .error ⟨.missingOperands consumer needed stack.length, stack⟩
  else .ok ((stack.take needed).reverse, stack.drop needed)

/-- An outcome in which a missing value is blamed on the function and its arguments. -/
def blame (name : String) (arguments : List Float) (outcome : Except Fault Float) :
    Except Fault Float :=
  outcome.mapError fun
    | .noValue => .outsideDomain name arguments
    | fault => fault

def applyOperation (symbol : String) (operation : Operation) (operands : List Float) :
    Except Fault Float :=
  blame symbol operands (operation.apply operands)

/-- The value of a function on its arguments, angles in the given unit. -/
def applyFunction (unit : AngleUnit) (name : String) (f : Fn) (arguments : List Float) :
    Except Fault Float :=
  if f.category = .trig then
    if f.inverse then (blame name arguments (f.apply arguments)).map unit.fromRadians
    else
      let arguments := arguments.map unit.toRadians
      blame name arguments (f.apply arguments)
  else blame name arguments (f.apply arguments)

/-- Push a result, or halt with what is left of the stack. -/
def push (outcome : Except Fault Float) (stack : List Float) : Except Halt (List Float) :=
  match outcome with
  | .ok x => .ok (x :: stack)
  | .error fault => .error ⟨fault, stack⟩

def step (context : Context) (stack : List Float) : Token → Except Halt (List Float)
  | .number x => .ok (x :: stack)
  | .constant name =>
      match Syntax.constant? name with
      | some x => .ok (x :: stack)
      | none => .error ⟨.unknownConstant name, stack⟩
  | .var name => push (context.lookup name) stack
  | .operator symbol unary =>
      match Token.operationOf? symbol unary with
      | some operation => do
          let (operands, below) ← pop stack operation.arity symbol
          push (applyOperation symbol operation operands) below
      | none => .error ⟨.unknownOperator symbol, stack⟩
  | .function name =>
      match Fn.ofName? name with
      | some f => do
          let (arguments, below) ← pop stack f.arity name
          push (applyFunction context.unit name f arguments) below
      | none => .error ⟨.unknownFunction name, stack⟩
  | token => .error ⟨.misplaced token.text, stack⟩

/-- Run postfix tokens: the value they have, and the machine afterwards. -/
def run (m : Machine) (tokens : List Token) : Except Fault Float × Machine :=
  match tokens.foldlM (step m.context) [] with
  | .ok [x] => (.ok x, { m with stack := [] })
  | .ok stack => (.error (.leftOver stack.length), { m with stack := stack })
  | .error halt => (.error halt.fault, { m with stack := halt.stack })

end Machine

def evaluatePostfix (context : Context) (tokens : List Token) : Except Fault Float :=
  ((Machine.new context).run tokens).1

def evaluate [Syntax.Digits] (context : Context) (strict : Bool) (expression : String) :
    Calc Float := do
  let tokens ← Syntax.parse strict expression
  let value ← Report.ofExcept (evaluatePostfix context tokens)
  Report.note (.evaluated expression value)
  return value

end SciCalc
