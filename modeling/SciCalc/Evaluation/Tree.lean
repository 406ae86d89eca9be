/-
# SciCalc.Evaluation.Tree -- the value of an expression tree

The value is found from the leaves up: operands from left to right, then the operator
or function on their values.  The first failure in that order is the outcome.

Angles are measured against half a turn, which is 180 degrees, 200 gradians or π radians
(`halfTurn`): an angle given to a function is taken times π over that number, one that an
inverse function finds times that number over π.  Angles in radians stay as they are.
-/
import SciCalc.Evaluation.Context
import SciCalc.Evaluation.Rule
import SciCalc.Syntax.Expr

namespace SciCalc.Syntax.Expr

set_option autoImplicit false

/-- What a rule's outcome is where the rule is applied: to have no value is to be outside
the domain of what is applied. -/
def applied (name : String) (operands : List Float) : Except Fault Float → Except Fault Float
  | .error .noValue => .error (.outsideDomain name operands)
  | outcome => outcome

def applySymbol (symbol : String) (unary : Bool) (operands : List Float) :
    Except Fault Float :=
  match Token.operationOf? symbol unary with
  | some operation => applied symbol operands (operation.apply operands)
  | none => .error (.unknownOperator symbol)

def halfTurn : AngleUnit → Float
  | .degrees => 180.0
  | .gradians => 200.0
  | .radians => Number.pi

/-- An angle in radians. -/
def toRadian (unit : AngleUnit) (angle : Float) : Float :=
  if unit = .radians then angle else angle * (Number.pi / halfTurn unit)

/-- An angle of so many radians in a unit. -/
def ofRadian (unit : AngleUnit) (radians : Float) : Float :=
  if unit = .radians then radians else radians * (halfTurn unit / Number.pi)

/-- The value of a function on values.  Sine, cosine and tangent take angles in the given
unit, their inverses give angles in it. -/
def applyFn (unit : AngleUnit) (name : String) (arguments : List Float) (f : Fn) :
    Except Fault Float :=
  match f with
  | .sin | .cos | .tan =>
      let radians := arguments.map (toRadian unit)
      applied name radians (f.apply radians)
  | .asin | .acos | .atan => do
      let radians ← applied name arguments (f.apply arguments)
      return ofRadian unit radians
  | _ => applied name arguments (f.apply arguments)

def applyName (unit : AngleUnit) (name : String) (arguments : List Float) :
    Except Fault Float :=
  match Fn.ofName? name with
  | some f => applyFn unit name arguments f
  | none => .error (.unknownFunction name)

def value (c : Context) : Expr → Except Fault Float
  | number x => .ok x
  | constant name =>
      match constant? name with
      | some x => .ok x
      | none => .error (.unknownConstant name)
  | var name => c.lookup name
  | group inner => inner.value c
  | call name argument => do
      let x ← argument.value c
      applyName c.unit name [x]
  | callPair name first second => do
      let x ← first.value c
      let y ← second.value c
      applyName c.unit name [x, y]
  | factorial operand => do
      let x ← operand.value c
      applySymbol factorialSymbol false [x]
  | negate operand => do
      let x ← operand.value c
      applySymbol "×" true [-1.0, x]
  | binary symbol left right => do
      let x ← left.value c
      let y ← right.value c
      applySymbol symbol false [x, y]

end SciCalc.Syntax.Expr
