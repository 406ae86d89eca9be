/-
# SciCalc.Quadrature.Simpson -- Simpson's rule, once and adaptively

The rule on one interval weighs the values at its ends and its middle by one, one
and four.  The adaptive version halves an interval as long as the estimates on its
halves together differ too much from the estimate on the whole, and gives each half
one half of the tolerance.  An interval is accepted when they agree, or when it may
not be halved any more; what it contributes is the refined estimate with the leading
error term taken away (`Panel.value`).  Where halvings can be nested only so often, an
interval that may be halved still more, and would have to be, has no estimate.

Samples are carried from an interval to its halves, so an interval takes only two
new ones, at its quarter points.  The intervals accepted form a tree (`Refinement`),
whose leaves partition the range; the integral is the tree's value.
-/
import SciCalc.Quadrature.Failure
import SciCalc.Report

namespace SciCalc.Quadrature

set_option autoImplicit false

open SciCalc.Number

def defaultTolerance {α : Type} [OfScientific α] : α := 1e-8

/-- How often an interval may be halved unless another limit is given. -/
def defaultDepth : Int := 20

/-- An interval that was accepted, with its two estimates. -/
structure Panel (α : Type) where
  a : α
  b : α
  tolerance : α
  whole : α
  refined : α
deriving DecidableEq, Repr

/-- The accepted intervals of a range as its repeated halving found them. -/
inductive Refinement (α : Type)
  | accepted (panel : Panel α)
  | halved (left right : Refinement α)
deriving DecidableEq, Repr

variable {α ε : Type} [Scalar α]

def middle (a b : α) : α := (a + b) / 2.0

/-- Whether two estimates are close enough for a tolerance. -/
def agree (whole refined tolerance : α) : Bool :=
  decide (Scalar.abs (refined - whole) ≤ 15.0 * tolerance)

/-- The refined estimate without its leading error term. -/
def Panel.value (p : Panel α) : α := p.refined + (p.refined - p.whole) / 15.0

namespace Refinement

def panels : Refinement α → List (Panel α)
  | accepted panel => [panel]
  | halved left right => left.panels ++ right.panels

/-- The sum of what the accepted intervals contribute. -/
def value : Refinement α → α
  | accepted panel => panel.value
  | halved left right => left.value + right.value

end Refinement

/-- The values at the quarter points of an interval and the estimates on its halves. -/
structure Halves (α : Type) where
  fl : α
  fr : α
  left : α
  right : α
deriving DecidableEq, Repr

def Halves.sum (h : Halves α) : α := h.left + h.right

/-- The halves of the interval from `a` to `b`, where the values at `a`, `b` and the
middle are `fa`, `fb` and `fm`. -/
def halves (f : α → Except ε α) (a b fa fb fm : α) : Except (Failure α ε) (Halves α) := do
  let fl ← sample f (middle a (middle a b))
  let fr ← sample f (middle (middle a b) b)
  return ⟨fl, fr, (b - a) / 12.0 * (fa + 4.0 * fl + fm), (b - a) / 12.0 * (fm + 4.0 * fr + fb)⟩

/-- Refine the estimate `whole` of the interval from `a` to `b`, where the values at
`a`, `b` and the middle are `fa`, `fb` and `fm`, by at most so many halvings.  If more
would be allowed but cannot be nested (`cut`), an interval that needs them has none. -/
def refine (f : α → Except ε α) (cut : Bool) :
    (depth : Nat) → (a b tolerance whole fa fb fm : α) → Except (Failure α ε) (Refinement α)
  | 0, a, b, tolerance, whole, fa, fb, fm => do
      let h ← halves f a b fa fb fm
      if cut && !agree whole h.sum tolerance then throw (.trouble .tooDeep)
      return .accepted ⟨a, b, tolerance, whole, h.sum⟩
  | depth + 1, a, b, tolerance, whole, fa, fb, fm => do
      let h ← halves f a b fa fb fm
      if agree whole h.sum tolerance then
        return .accepted ⟨a, b, tolerance, whole, h.sum⟩
      else
        let left ← refine f cut depth a (middle a b) (tolerance / 2.0) h.left fa fm h.fl
        let right ← refine f cut depth (middle a b) b (tolerance / 2.0) h.right fm fb h.fr
        return .halved left right

/-- Simpson's rule on one interval, given the values at its ends and its middle. -/
def estimate (a b fa fb fm : α) : α := (b - a) / 6.0 * (fa + 4.0 * fm + fb)

def simpson (f : α → Except ε α) (a b : α) : Except (Failure α ε) α := do
  let fa ← sample f a
  let fb ← sample f b
  let fm ← sample f (middle a b)
  return estimate a b fa fb fm

/-- The accepted intervals of the range from `a` up to `b`, halved at most `depth` times;
`nesting` limits how often halvings can be nested, if anything does. -/
def refinement (f : α → Except ε α) (a b tolerance : α) (depth : Int) (nesting : Option Nat) :
    Except (Failure α ε) (Refinement α) := do
  let fa ← sample f a
  let fb ← sample f b
  let fm ← sample f (middle a b)
  let limit := nesting.getD depth.toNat
  refine f (limit < depth.toNat) (min depth.toNat limit) a b tolerance (estimate a b fa fb fm)
    fa fb fm

def integrateUp (f : α → Except ε α) (a b tolerance : α) (depth : Int) (nesting : Option Nat) :
    Report (Event α ε) (Failure α ε) α := do
  let tree ← Report.ofExcept (refinement f a b tolerance depth nesting)
  Report.note (.integral a b tree.value)
  return tree.value

/-- The integral from `a` to `b`, either of which may be the larger. -/
def integrate (f : α → Except ε α) (a b tolerance : α) (depth : Int) (nesting : Option Nat) :
    Report (Event α ε) (Failure α ε) α :=
  if !(Scalar.isFinite a && Scalar.isFinite b) then Report.fail (.trouble .infiniteBounds)
  else if a == b then return 0.0
  else if b < a then do
    let value ← integrateUp f b a tolerance depth nesting
    return -value
  else integrateUp f a b tolerance depth nesting

end SciCalc.Quadrature
