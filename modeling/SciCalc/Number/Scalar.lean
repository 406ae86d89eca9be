/-
# SciCalc.Number.Scalar -- the arithmetic that the numerical methods use

Root finding and quadrature are written once, over any type with the operations
of `Scalar`.  Two instances matter: doubles, on which the methods run, and the
rationals, on which their mathematics can be stated without rounding.

Nothing is assumed of the operations here.  A statement that needs laws takes the
laws it needs as hypotheses, or speaks of the rationals.
-/
import SciCalc.Number.ExactSum

namespace SciCalc.Number

set_option autoImplicit false

/-- Arithmetic, order and the few further operations of the numerical methods. -/
class Scalar (α : Type) extends Add α, Sub α, Mul α, Div α, Neg α, LT α, LE α, BEq α,
    OfScientific α where
  decidableLT : DecidableLT α
  decidableLE : DecidableLE α
  /-- The number nearest to an integer; not finite when none is near. -/
  ofInt : Int → α
  abs : α → α
  /-- The magnitude of the first number with the sign of the second. -/
  withSign : α → α → α
  isFinite : α → Bool
  /-- One summand joined to the parts of an exact sum; none when a part would not
  be finite. -/
  accumulate : List α → α → Option (List α)
  /-- The sum of the parts. -/
  total : List α → α

namespace Scalar

attribute [reducible, instance] Scalar.decidableLT Scalar.decidableLE

/-- The number nearest to a count. -/
def ofNat {α : Type} [Scalar α] (n : Nat) : α := ofInt (n : Int)

instance : Scalar Float where
  decidableLT := inferInstance
  decidableLE := inferInstance
  ofInt := Float.ofInt
  abs := Float.abs
  withSign size sign := if signed sign then -size.abs else size.abs
  isFinite := Float.isFinite
  accumulate := ExactSum.accumulate
  total := ExactSum.total

instance : Scalar Rat where
  decidableLT := inferInstance
  decidableLE := inferInstance
  ofInt n := n
  abs x := if x < 0 then -x else x
  withSign size sign :=
    let magnitude := if size < 0 then -size else size
    if sign < 0 then -magnitude else magnitude
  isFinite _ := true
  accumulate parts x := some (x :: parts)
  total := List.foldr (· + ·) 0

end Scalar

end SciCalc.Number
