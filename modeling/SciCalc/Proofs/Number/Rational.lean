/-
# SciCalc.Proofs.Number.Rational -- the operations of the rationals

Over the rationals the operations of `Scalar` are those of an ordered field, and the
constants that the numerical methods write as decimals are exact.
-/
import Mathlib.Algebra.Order.Field.Rat
import Mathlib.Algebra.Order.Group.Abs
import Mathlib.Tactic.NormNum
import SciCalc.Root.Failure

namespace SciCalc

set_option autoImplicit false

namespace Number

theorem zero_rat : (0.0 : Rat) = 0 := by norm_num

theorem abs_rat (x : Rat) : Scalar.abs x = |x| := by
  show (if x < 0 then -x else x) = |x|
  split
  · rename_i negative
    exact (abs_of_neg negative).symm
  · rename_i nonnegative
    exact (abs_of_nonneg (not_lt.1 nonnegative)).symm

theorem withSign_rat (size sign : Rat) :
    Scalar.withSign size sign = if sign < 0 then -|size| else |size| := by
  rw [← abs_rat]
  rfl

end Number

namespace Root

/-- One of two values is zero, or their signs differ. -/
def Opposed (x y : Rat) : Prop := x = 0 ∨ y = 0 ∨ (x < 0 ∧ 0 < y) ∨ (0 < x ∧ y < 0)

theorem encloses_rat (x y : Rat) : encloses x y = true ↔ Opposed x y := by
  have unfolded : encloses x y =
      (x == (0.0 : Rat) || y == (0.0 : Rat) || decide (x < (0.0 : Rat)) != decide (y < (0.0 : Rat))) :=
    rfl
  rw [unfolded, Number.zero_rat]
  simp only [Bool.or_eq_true, beq_iff_eq, bne_iff_ne, ne_eq, decide_eq_decide, Opposed]
  constructor
  · rintro ((hx | hy) | differ)
    · exact .inl hx
    · exact .inr (.inl hy)
    · grind
  · grind

theorem divide_rat_zero {ε : Type} (x : Rat) :
    (divide x 0 : Except (Failure Rat ε) Rat) = .error (.trouble .zeroDivisor) := by
  show (if (0 : Rat) == (0.0 : Rat) then _ else _) = _
  rw [Number.zero_rat]
  rfl

theorem divide_rat {ε : Type} {x y : Rat} (nonzero : y ≠ 0) :
    (divide x y : Except (Failure Rat ε) Rat) = .ok (x / y) := by
  have test : (y == (0.0 : Rat)) = false := by simpa [Number.zero_rat] using nonzero
  show (if y == (0.0 : Rat) then _ else _) = _
  rw [test]
  rfl

end Root

end SciCalc
