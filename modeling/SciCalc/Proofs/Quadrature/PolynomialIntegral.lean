/-
# SciCalc.Proofs.Quadrature.PolynomialIntegral -- the integral of a polynomial

A polynomial over the rationals has a rational integral between rational bounds
(`integralOf`), which is its integral over the reals (`cast_integralOf`).

The rules look at a function at points that divide a range evenly.  A polynomial is therefore
seen from the range: `along p a b` has at `t` the value that `p` has the part `t` of the way from
`a` to `b`, and no higher degree.  Its coefficients give the integral, one by one.
-/
import Mathlib.Analysis.SpecialFunctions.Integrals.Basic
import Mathlib.Topology.Algebra.Polynomial
import SciCalc.Proofs.Number.Rational

namespace SciCalc.Quadrature

set_option autoImplicit false

open Polynomial (C X aeval)

/-- A polynomial in the part of the way from `a` to `b`. -/
noncomputable def along (p : Polynomial Rat) (a b : Rat) : Polynomial Rat :=
  p.comp (C a + C (b - a) * X)

/-- The integral of a polynomial from `a` to `b`, either of which may be the larger. -/
noncomputable def integralOf (p : Polynomial Rat) (a b : Rat) : Rat :=
  (b - a) * ∑ d ∈ Finset.range (p.natDegree + 1), (along p a b).coeff d / (d + 1)

variable (p : Polynomial Rat) (a b : Rat)

theorem eval_along (t : Rat) : (along p a b).eval t = p.eval (a + (b - a) * t) := by
  simp [along, Polynomial.eval_comp]

theorem natDegree_along_le : (along p a b).natDegree ≤ p.natDegree := by
  have line : (C a + C (b - a) * X : Polynomial Rat).natDegree ≤ 1 := by
    rw [add_comm]
    exact Polynomial.natDegree_linear_le
  calc (along p a b).natDegree
      ≤ p.natDegree * (C a + C (b - a) * X : Polynomial Rat).natDegree :=
        Polynomial.natDegree_comp_le
    _ ≤ p.natDegree * 1 := Nat.mul_le_mul_left _ line
    _ = p.natDegree := Nat.mul_one _

/-- Coefficients beyond the degree may be added in. -/
theorem integralOf_eq_sum {p : Polynomial Rat} {n : Nat} (below : p.natDegree < n) :
    integralOf p a b = (b - a) * ∑ d ∈ Finset.range n, (along p a b).coeff d / (d + 1) := by
  unfold integralOf
  congr 1
  apply Finset.sum_subset (Finset.range_mono below)
  intro d _ high
  have beyond : (along p a b).natDegree < d := by
    have := natDegree_along_le p a b
    rw [Finset.mem_range] at high
    omega
  rw [Polynomial.coeff_eq_zero_of_natDegree_lt beyond, zero_div]

/-- From zero to one every power has the integral that its exponent gives. -/
theorem integral_unit (q : Polynomial Rat) {n : Nat} (below : q.natDegree < n) :
    ∫ t in (0 : ℝ)..1, aeval t q = ∑ d ∈ Finset.range n, (q.coeff d : ℝ) / (d + 1) := by
  have expanded (t : ℝ) : aeval t q = ∑ d ∈ Finset.range n, (q.coeff d : ℝ) * t ^ d := by
    rw [Polynomial.aeval_eq_sum_range' below]
    exact Finset.sum_congr rfl fun d _ => Rat.smul_def _ _
  have integrable (d : Nat) : IntervalIntegrable (fun t : ℝ => (q.coeff d : ℝ) * t ^ d)
      MeasureTheory.volume 0 1 :=
    (continuous_const.mul (continuous_pow d)).intervalIntegrable _ _
  simp only [expanded]
  rw [intervalIntegral.integral_finsetSum fun d _ => integrable d]
  apply Finset.sum_congr rfl
  intro d _
  rw [intervalIntegral.integral_const_mul, integral_pow, one_pow, zero_pow d.succ_ne_zero,
    sub_zero, mul_one_div]

/-- The rational integral is the real one. -/
theorem cast_integralOf : (integralOf p a b : ℝ) = ∫ x in (a : ℝ)..b, aeval x p := by
  have ends : ∫ x in (a : ℝ)..b, aeval x p =
      ((b : ℝ) - a) • ∫ t in (0 : ℝ)..1, aeval (((b : ℝ) - a) * t + a) p := by
    have moved := intervalIntegral.smul_integral_comp_mul_add (a := 0) (b := 1)
      (fun x : ℝ => aeval x p) ((b : ℝ) - a) (a : ℝ)
    rw [moved, mul_zero, zero_add, mul_one, sub_add_cancel]
  have inside (t : ℝ) : aeval (((b : ℝ) - a) * t + a) p = aeval t (along p a b) := by
    rw [along, Polynomial.aeval_comp]
    simp [add_comm]
  simp only [ends, inside]
  rw [integral_unit _ (Nat.lt_succ_of_le (natDegree_along_le p a b)), integralOf, smul_eq_mul]
  push_cast
  rfl

/-- Integrals over ranges side by side add up. -/
theorem integralOf_add_integralOf (c : Rat) :
    integralOf p a c + integralOf p c b = integralOf p a b := by
  have joined := intervalIntegral.integral_add_adjacent_intervals
    (μ := MeasureTheory.volume) (f := fun x : ℝ => aeval x p) (a := a) (b := c) (c := b)
    (p.continuous_aeval.intervalIntegrable _ _) (p.continuous_aeval.intervalIntegrable _ _)
  rw [← cast_integralOf, ← cast_integralOf, ← cast_integralOf] at joined
  exact_mod_cast joined

end SciCalc.Quadrature
