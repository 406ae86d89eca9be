/-
# SciCalc.Syntax.Function -- named functions and constants

A function has one or more names.  The inverse trigonometric and hyperbolic
functions can be written with a leading `a` or with a raised `⁻¹`, roots with a
sign or a word.  Two functions take two arguments, all others one.

Only trigonometric functions depend on the angle unit: those that are no inverses
in their argument, the inverses in their result.
-/
import SciCalc.Number.Elementary

namespace SciCalc.Syntax

set_option autoImplicit false

/-- What a function's dependence on angles is. -/
inductive Category
  | trig
  | hyperbolic
  | other
deriving DecidableEq, Repr

inductive Fn
  | sin | cos | tan
  | asin | acos | atan
  | sinh | cosh | tanh
  | asinh | acosh | atanh
  | log | ln
  | squareRoot | cubeRoot | fourthRoot
  | abs
  | arrangements | selections
deriving DecidableEq, Repr

namespace Fn

def inverseMark : String := "⁻¹"

def names : List (String × Fn) :=
  [("sin", sin), ("cos", cos), ("tan", tan),
   ("asin", asin), ("acos", acos), ("atan", atan),
   ("sinh", sinh), ("cosh", cosh), ("tanh", tanh),
   ("asinh", asinh), ("acosh", acosh), ("atanh", atanh),
   ("log", log), ("ln", ln), ("sqrt", squareRoot), ("√", squareRoot), ("∛", cubeRoot),
   ("∜", fourthRoot), ("abs", abs), ("Abs", abs), ("nPr", arrangements), ("nCr", selections),
   ("sin⁻¹", asin), ("cos⁻¹", acos), ("tan⁻¹", atan),
   ("sinh⁻¹", asinh), ("cosh⁻¹", acosh), ("tanh⁻¹", atanh)]

def ofName? (name : String) : Option Fn := names.lookup name

def arity : Fn → Nat
  | arrangements | selections => 2
  | _ => 1

def category : Fn → Category
  | sin | cos | tan | asin | acos | atan => .trig
  | sinh | cosh | tanh | asinh | acosh | atanh => .hyperbolic
  | _ => .other

/-- Whether the function is the inverse of a trigonometric or hyperbolic one. -/
def inverse : Fn → Bool
  | asin | acos | atan | asinh | acosh | atanh => true
  | _ => false

end Fn

/-- The name of the hyperbolic counterpart of a trigonometric function, in the same
spelling; any other name stays as it is. -/
def hyperbolicName (name : String) : String :=
  match Fn.ofName? name with
  | some f =>
      if f.category = .trig then
        let cs := name.toList
        let mark := Fn.inverseMark.toList
        if mark.isSuffixOf cs then
          String.ofList (cs.take (cs.length - mark.length) ++ 'h' :: mark)
        else name ++ "h"
      else name
  | none => name

def constants : List (String × Float) :=
  [("π", Number.pi), ("pi", Number.pi), ("e", Number.euler)]

def constant? (name : String) : Option Float := constants.lookup name

end SciCalc.Syntax
