/-
# SciCalc.Root.Bisection -- halving an interval with a sign change

The interval is halved at its midpoint, and the half kept is the one whose ends
differ in sign: the midpoint replaces `b` if its value differs in sign from that at
`a`, and otherwise `a`.  The value at `b` is recorded but never compared again.

The search ends at a midpoint with a small value, at the midpoint of an interval
that was narrow before it was halved, or at the middle of what is left when no
iteration is allowed any more.  So once the ends enclose a root it cannot fail,
unless the function does.
-/
import SciCalc.Root.Failure

namespace SciCalc.Root

set_option autoImplicit false

open SciCalc.Number

variable {α ε : Type} [Scalar α]

namespace Bracket

def middle (k : Bracket α) : α := (k.a + k.b) / 2.0

/-- The half on whose ends the signs differ, when the middle has the value `fm`. -/
def halve (k : Bracket α) (fm : α) : Bracket α :=
  if decide (k.fa < 0.0) != decide (fm < 0.0) then { k with b := k.middle, fb := fm }
  else { k with a := k.middle, fa := fm }

/-- A middle that agrees with `a` replaces it. -/
theorem halve_of_agrees {k : Bracket α} {fm : α} (agrees : k.fa < 0.0 ↔ fm < 0.0) :
    k.halve fm = { k with a := k.middle, fa := fm } := by
  rw [halve, if_neg (by simpa using agrees)]

/-- One that does not replaces `b`. -/
theorem halve_of_differs {k : Bracket α} {fm : α} (differs : ¬ (k.fa < 0.0 ↔ fm < 0.0)) :
    k.halve fm = { k with b := k.middle, fb := fm } := by
  rw [halve, if_pos (by simpa using differs)]

end Bracket

/-- Halve a bracket at most `left` times, after `done` times before. -/
def bisect (f : α → Except ε α) (tolerance : α) (limit : Int) :
    (left done : Nat) → Bracket α → Except (Failure α ε) (Ending α)
  | 0, _, k => .ok (.exhausted k.middle k limit)
  | left + 1, done, k => do
      let fm ← sample f k.middle
      if Scalar.abs fm < tolerance then return .smallValue k.middle fm (done + 1)
      if Scalar.abs (k.b - k.a) < tolerance then return .narrow k.middle k (done + 1)
      bisect f tolerance limit left (done + 1) (k.halve fm)

def bisection (f : α → Except ε α) (a b tolerance : α) (limit : Int) :
    Except (Failure α ε) (Ending α) := do
  let fa ← sample f a
  let fb ← sample f b
  if !encloses fa fb then throw (.trouble (.noSignChange a fa b fb))
  if Scalar.abs fa < tolerance then return .bound a fa
  if Scalar.abs fb < tolerance then return .bound b fb
  bisect f tolerance limit limit.toNat 0 ⟨a, fa, b, fb⟩

/-- What is done before the first halving. -/
theorem bisection_of_values {f : α → Except ε α} {a b fa fb : α} (left : f a = .ok fa)
    (right : f b = .ok fb) (tolerance : α) (limit : Int) :
    bisection f a b tolerance limit =
      if encloses fa fb = false then .error (.trouble (.noSignChange a fa b fb))
      else if Scalar.abs fa < tolerance then .ok (.bound a fa)
      else if Scalar.abs fb < tolerance then .ok (.bound b fb)
      else bisect f tolerance limit limit.toNat 0 ⟨a, fa, b, fb⟩ := by
  rw [bisection, sample, sample, left, right]
  simp only [bind, Except.bind]
  cases encloses fa fb <;> rfl

end SciCalc.Root
