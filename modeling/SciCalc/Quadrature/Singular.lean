/-
# SciCalc.Quadrature.Singular -- points of a grid where a function has no value

The grid has `samples` points from `a` on, evenly spaced so that the next one would be
`b`.  A point is listed if the function has a value there that is not finite, or fails
there in a way that is passed over.  Any other failure ends the search.
-/
import SciCalc.Quadrature.Failure
import SciCalc.Report

namespace SciCalc.Quadrature

set_option autoImplicit false

open SciCalc.Number

def defaultSamples : Int := 100

variable {α ε : Type} [Scalar α]

/-- Whether a search goes on behind a failure: always behind a value that is not finite. -/
def Failure.passedOver (passes : ε → Bool) : Failure α ε → Bool
  | sample cause => passes cause
  | trouble _ => true

/-- The points among the given ones where the function has no finite value.  A failure
that does not pass ends the search. -/
def singularAmong (f : α → Except ε α) (passes : ε → Bool) :
    List α → Report (Event α ε) (Failure α ε) (List α)
  | [] => return []
  | x :: xs => do
      match sample f x with
      | .ok _ => singularAmong f passes xs
      | .error cause =>
          if cause.passedOver passes then
            Report.note (.discontinuity x cause)
            return x :: (← singularAmong f passes xs)
          else Report.fail cause

/-- The points of an even grid over a range where the function has no finite value. -/
def discontinuities (f : α → Except ε α) (passes : ε → Bool) (a b : α) (samples : Int) :
    Report (Event α ε) (Failure α ε) (List α) := do
  let step ← Report.ofExcept (widthOf a b samples)
  singularAmong f passes ((List.range samples.toNat).map (gridPoint a step))

end SciCalc.Quadrature
