/-
# SciCalc.Quadrature.Failure -- how integration fails, and sampling

Every integration rule takes its values by `sample`, which refuses a value that is
not finite.  A rule fails because the function could not be evaluated, with the
function's own cause, or by a trouble of its own.
-/
import SciCalc.Number.Parts

namespace SciCalc.Quadrature

set_option autoImplicit false

open SciCalc.Number

/-- What can go wrong in a rule although the function can be evaluated. -/
inductive Trouble (α : Type)
  | infiniteBounds
  | noPanels (count : Int)
  /-- The value `y` at `x` is not finite. -/
  | nonFinite (y x : α)
  /-- A sum of finite values is out of range. -/
  | sumOverflow
  /-- An interval would have to be halved more often than halvings can be nested. -/
  | tooDeep
  /-- The range cannot be divided as asked. -/
  | parts (cause : PartFault)
deriving DecidableEq, Repr

/-- Why a rule gave no value; `ε` is the cause for a function without a value. -/
inductive Failure (α ε : Type)
  | sample (cause : ε)
  | trouble (cause : Trouble α)
deriving DecidableEq, Repr

inductive Event (α ε : Type)
  | integral (a b value : α)
  | converged (rows : Nat)
  | discontinuity (x : α) (cause : Failure α ε)
deriving DecidableEq, Repr

variable {α ε : Type} [Scalar α]

def sample (f : α → Except ε α) (x : α) : Except (Failure α ε) α :=
  match f x with
  | .ok y => if Scalar.isFinite y then .ok y else .error (.trouble (.nonFinite y x))
  | .error cause => .error (.sample cause)

/-- The width of the parts of a range, its failure becoming the rule's. -/
def widthOf (a b : α) (count : Int) : Except (Failure α ε) α :=
  (partWidth a b count).mapError fun cause => .trouble (.parts cause)

/-- The exact sum of the values at some points, rounded once. -/
def sumOver (f : α → Except ε α) (points : List α) : Except (Failure α ε) α := do
  let parts ← points.foldlM (fun parts x => do
    let y ← sample f x
    match Scalar.accumulate parts y with
    | some parts => return parts
    | none => throw (.trouble .sumOverflow)) []
  return Scalar.total parts

end SciCalc.Quadrature
