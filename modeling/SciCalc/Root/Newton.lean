/-
# SciCalc.Root.Newton -- the two open methods

Newton's method steps from `x` to `x - f x / f' x`, the secant method from its last
two points to where the line through their values is zero.  Both end at a point with
a small value or after a small step.  Neither keeps a bracket, so both can fail to
converge, and both refuse a slope below `minSlope`.

Newton's method also refuses a value that is not finite; the secant method compares
only.  Without a derivative, Newton's method takes the central difference.
-/
import SciCalc.Root.Failure

namespace SciCalc.Root

set_option autoImplicit false

open SciCalc.Number

variable {α ε : Type} [Scalar α]

/-- Slopes below this magnitude are refused. -/
def minSlope : α := 1e-12

def differenceStep : α := 1e-7

def centralDifference (f : α → Except ε α) (step x : α) : Except (Failure α ε) α := do
  let right ← sample f (x + step)
  let left ← sample f (x - step)
  divide (right - left) (2.0 * step)

/-- Newton steps from `x`, at most `left` of them, after `done` before. -/
def newtonSteps (f : α → Except ε α) (slope : α → Except (Failure α ε) α) (tolerance : α)
    (limit : Int) : (left done : Nat) → α → Except (Failure α ε) (Ending α)
  | 0, _, _ => .error (.trouble (.notConverged .newton limit))
  | left + 1, done, x => do
      let fx ← sample f x
      if !Scalar.isFinite fx then throw (.trouble (.leftDomain x fx))
      if Scalar.abs fx < tolerance then return .smallValue x fx (done + 1)
      let dfx ← slope x
      if Scalar.abs dfx < minSlope then throw (.trouble (.flatDerivative x))
      let next := x - (← divide fx dfx)
      if Scalar.abs (next - x) < tolerance then return .smallStep next fx dfx (done + 1)
      newtonSteps f slope tolerance limit left (done + 1) next

def newton (f : α → Except ε α) (slope : α → Except (Failure α ε) α) (x tolerance : α)
    (limit : Int) : Except (Failure α ε) (Ending α) :=
  newtonSteps f slope tolerance limit limit.toNat 0 x

/-- Secant steps from `x₀`, where the value is `f₀`, and `x₁`. -/
def secantSteps (f : α → Except ε α) (tolerance : α) (limit : Int) :
    (left done : Nat) → (x₀ f₀ x₁ : α) → Except (Failure α ε) (Ending α)
  | 0, _, _, _, _ => .error (.trouble (.notConverged .secant limit))
  | left + 1, done, x₀, f₀, x₁ => do
      let f₁ ← sample f x₁
      if Scalar.abs f₁ < tolerance then return .smallValue x₁ f₁ (done + 1)
      if Scalar.abs (f₁ - f₀) < minSlope then throw (.trouble (.equalValues x₀ x₁))
      let x₂ := x₁ - (← divide (f₁ * (x₁ - x₀)) (f₁ - f₀))
      if Scalar.abs (x₂ - x₁) < tolerance then
        return .smallStep x₂ f₁ (f₁ - f₀) (done + 1)
      secantSteps f tolerance limit left (done + 1) x₁ f₁ x₂

def secant (f : α → Except ε α) (x₀ x₁ tolerance : α) (limit : Int) :
    Except (Failure α ε) (Ending α) := do
  let f₀ ← sample f x₀
  secantSteps f tolerance limit limit.toNat 0 x₀ f₀ x₁

end SciCalc.Root
