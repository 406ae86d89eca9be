/-
# SciCalc.Evaluation.Rule -- what operators and functions compute

The rules act on doubles, angles in radians.  A list of operands of another length
than the arity is outside every domain.  Division and remainder refuse a zero
divisor, logarithms and square roots name the domain they need; where a function of
the mathematical library has no value the fault is `Fault.noValue`, and whoever
applies the rule can name the function (`Machine`).
-/
import SciCalc.Fault
import SciCalc.Number.Elementary
import SciCalc.Syntax.Function
import SciCalc.Syntax.Operation

namespace SciCalc

set_option autoImplicit false

open SciCalc.Number

def orNoValue : Option Float → Except Fault Float
  | some y => .ok y
  | none => .error .noValue

/-- The natural number that an operand must be. -/
def countable (name : String) (x : Float) : Except Fault Nat :=
  match wholeNumber? x with
  | some n => .ok n
  | none => .error (.notCountable name x)

/-- A count of two numbers, which must both be natural. -/
def countOf (name : String) (rule : Nat → Nat → Except CountFault Float) (x y : Float) :
    Except Fault Float := do
  let n ← countable name x
  let r ← countable name y
  (rule n r).mapError Fault.count

/-- A function that is defined above a bound only, and there by `f`. -/
def above (name : String) (outside : Float → Bool) (f : Float → Float) (x : Float) :
    Except Fault Float :=
  if outside x then .error (.outsideDomain name [x]) else .ok (f x)

namespace Syntax.Operation

/-- The value of an operation on its operands, in source order. -/
def apply : Operation → List Float → Except Fault Float
  | add, [x, y] => .ok (x + y)
  | sub, [x, y] => .ok (x - y)
  | mul, [x, y] => .ok (x * y)
  | negation, [x, y] => .ok (x * y)
  | div, [x, y] => if y == 0.0 then .error .divisionByZero else .ok (x / y)
  | rem, [x, y] => if y == 0.0 then .error .divisionByZero else orNoValue (remainder? x y)
  | pow, [x, y] =>
      match power? x y with
      | some z => .ok z
      | none => .error (.powerOutsideDomain x y)
  | factorial, [x] => do
      let n ← countable "Factorial" x
      return Number.factorial n
  | _, _ => .error .noValue

end Syntax.Operation

namespace Syntax.Fn

def apply : Fn → List Float → Except Fault Float
  | sin, [x] => orNoValue (inDomain? Float.sin x)
  | cos, [x] => orNoValue (inDomain? Float.cos x)
  | tan, [x] => orNoValue (inDomain? Float.tan x)
  | asin, [x] => orNoValue (inDomain? Float.asin x)
  | acos, [x] => orNoValue (inDomain? Float.acos x)
  | atan, [x] => orNoValue (inDomain? Float.atan x)
  | sinh, [x] => .ok x.sinh
  | cosh, [x] => .ok x.cosh
  | tanh, [x] => orNoValue (inDomain? Float.tanh x)
  | asinh, [x] => orNoValue (inDomain? Float.asinh x)
  | acosh, [x] => orNoValue (inDomain? Float.acosh x)
  | atanh, [x] => orNoValue (inDomain? Float.atanh x)
  | log, [x] => above "log" (fun x => decide (x ≤ 0.0)) Float.log10 x
  | ln, [x] => above "ln" (fun x => decide (x ≤ 0.0)) Float.log x
  | squareRoot, [x] => above "sqrt" (fun x => decide (x < 0.0)) Float.sqrt x
  | cubeRoot, [x] => .ok (Number.cubeRoot x)
  | fourthRoot, [x] => .ok (Number.fourthRoot x)
  | abs, [x] => .ok x.abs
  | arrangements, [x, y] => countOf "nPr" Number.arrangements x y
  | selections, [x, y] => countOf "nCr" Number.selections x y
  | _, _ => .error .noValue

end Syntax.Fn

end SciCalc
