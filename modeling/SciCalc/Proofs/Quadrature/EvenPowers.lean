/-
# SciCalc.Proofs.Quadrature.EvenPowers -- the error of the trapezoidal rule

The trapezoidal rule on `n` equal panels of a range misses the integral of a polynomial by a sum
of even powers of `1 / n`, without the zeroth.  Their coefficients depend on the polynomial and
the range only, and for a degree up to `2 m + 1` there are `m` of them (`trapezoidSum_polynomial`).

Seen from the range a polynomial is a sum of powers of the part of the way, and the rule is
linear.  For a power the rule adds the powers of `0` to `n - 1`, which Faulhaber's formula gives by
Bernoulli numbers, and half of the last less the first (`powerSum_eq`).  The half cancels the term
of the first Bernoulli number, and the others of odd number are zero.
-/
import Mathlib.NumberTheory.Bernoulli
import SciCalc.Proofs.Quadrature.PolynomialIntegral
import SciCalc.Proofs.Quadrature.RombergRows

namespace SciCalc.Quadrature

set_option autoImplicit false

/-- The trapezoidal rule for the power `d` of the part of the way, on `n` panels. -/
def powerSum (d n : Nat) : Rat :=
  (∑ k ∈ Finset.range n, (((k : Rat) / n) ^ d + ((k + 1 : Nat) / n : Rat) ^ d) / 2) / n

/-- The factor of the power `i` of `1 / n` in Faulhaber's formula for the power `d`. -/
def faulhaber (d i : Nat) : Rat := bernoulli i * d.choose i / (d + 1 - i)

theorem faulhaber_zero (d : Nat) : faulhaber d 0 = 1 / (d + 1) := by
  simp [faulhaber]

theorem faulhaber_of_odd (d : Nat) {i : Nat} (odd : Odd i) (large : 1 < i) : faulhaber d i = 0 := by
  rw [faulhaber, bernoulli_eq_zero_of_odd odd large, zero_mul, zero_div]

theorem faulhaber_of_lt {d i : Nat} (beyond : d < i) : faulhaber d i = 0 := by
  rw [faulhaber, Nat.choose_eq_zero_of_lt beyond, Nat.cast_zero, mul_zero, zero_div]

/-- The term of the first Bernoulli number, against the ends counted by half. -/
theorem faulhaber_one (d : Nat) : faulhaber d 1 = -(1 - 0 ^ d) / 2 := by
  rw [faulhaber, bernoulli_one, Nat.choose_one_right]
  cases d with
  | zero => simp
  | succ d =>
      have nonzero : ((d : Rat) + 1) ≠ 0 := by positivity
      rw [zero_pow d.succ_ne_zero]
      push_cast
      rw [add_sub_cancel_right]
      field_simp
      norm_num

/-- The factor is the one that belongs to the next binomial coefficient. -/
theorem faulhaber_eq {d i : Nat} (small : i ≤ d) :
    faulhaber d i = bernoulli i * (d + 1).choose i / (d + 1) := by
  have left : ((d : Rat) + 1 - i) ≠ 0 := by
    have : (i : Rat) ≤ d := Nat.cast_le.2 small
    linarith
  have right : ((d : Rat) + 1) ≠ 0 := by positivity
  have step : (d.choose i : Rat) * (d + 1) = (d + 1).choose i * (d + 1 - i) := by
    have counted := Nat.choose_mul_succ_eq d i
    have whole : ((d + 1 - i : Nat) : Rat) = d + 1 - i := by
      rw [Nat.cast_sub (by omega), Nat.cast_succ]
    rw [← whole]
    exact_mod_cast counted
  rw [faulhaber, div_eq_div_iff left right, mul_assoc, step, mul_assoc]

/-- The sum of the powers of the numbers below `n`, in powers of `1 / n`. -/
theorem sum_pow_div (d : Nat) {n : Nat} (nonzero : n ≠ 0) :
    (∑ k ∈ Finset.range n, (k : Rat) ^ d) / n ^ (d + 1) =
      ∑ i ∈ Finset.range (d + 1), faulhaber d i / n ^ i := by
  have scale : (n : Rat) ≠ 0 := Nat.cast_ne_zero.2 nonzero
  rw [sum_range_pow, Finset.sum_div]
  apply Finset.sum_congr rfl
  intro i inside
  have small : i ≤ d := Nat.lt_succ_iff.1 (Finset.mem_range.1 inside)
  have split : (n : Rat) ^ (d + 1) = n ^ (d + 1 - i) * n ^ i := by
    rw [← pow_add, Nat.sub_add_cancel (by omega)]
  rw [faulhaber_eq small, split, div_div, div_div, ← mul_assoc, mul_comm _ ((n : Rat) ^ i),
    ← mul_assoc, mul_div_mul_right _ _ (pow_ne_zero _ scale), mul_comm ((n : Rat) ^ i)]

/-- The rule adds the powers, and half of the last less the first. -/
theorem powerSum_eq_sum (d : Nat) {n : Nat} (nonzero : n ≠ 0) :
    powerSum d n =
      (∑ k ∈ Finset.range n, (k : Rat) ^ d) / n ^ (d + 1) + (1 - 0 ^ d) / 2 / n := by
  have scale : (n : Rat) ≠ 0 := Nat.cast_ne_zero.2 nonzero
  have powers : ∑ k ∈ Finset.range n, ((k : Rat) / n) ^ d =
      (∑ k ∈ Finset.range n, (k : Rat) ^ d) / n ^ d := by
    rw [Finset.sum_div]
    exact Finset.sum_congr rfl fun k _ => div_pow _ _ _
  rw [powerSum, sum_half_add_half fun k => ((k : Rat) / n) ^ d, powers, div_self scale, one_pow,
    Nat.cast_zero, zero_div, add_div, div_div, pow_succ]

/-- For a power the rule gives the integral and even powers of `1 / n`. -/
theorem powerSum_eq {d m n : Nat} (degree : d ≤ 2 * m + 1) (nonzero : n ≠ 0) :
    powerSum d n = 1 / (d + 1) +
      ∑ k ∈ Finset.range m, faulhaber d (2 * (k + 1)) / n ^ (2 * (k + 1)) := by
  have all : ∑ i ∈ Finset.range (d + 1), faulhaber d i / (n : Rat) ^ i =
      ∑ i ∈ Finset.range (2 * (m + 1)), faulhaber d i / (n : Rat) ^ i := by
    apply Finset.sum_subset (Finset.range_mono (by omega))
    intro i _ high
    rw [Finset.mem_range] at high
    rw [faulhaber_of_lt (by omega), zero_div]
  have odd (k : Nat) : faulhaber d (2 * (k + 1) + 1) = 0 :=
    faulhaber_of_odd d ⟨k + 1, rfl⟩ (by omega)
  rw [powerSum_eq_sum d nonzero, sum_pow_div d nonzero, all, sum_range_two_mul, Finset.sum_range_succ']
  simp only [odd, zero_div, add_zero]
  -- Of the terms of odd number only the first is left, and the ends counted by half cancel it.
  rw [mul_zero, zero_add, faulhaber_zero, faulhaber_one]
  ring

/-- Over a range the rule is linear in the powers of the part of the way. -/
theorem trapezoidSum_eq_sum {p : Polynomial Rat} {D : Nat} (below : p.natDegree < D) (a b : Rat)
    (n : Nat) :
    trapezoidSum (fun x => p.eval x) a b n =
      (b - a) * ∑ d ∈ Finset.range D, (along p a b).coeff d * powerSum d n := by
  have value (k : Nat) : p.eval (partPoint a b n k) =
      ∑ d ∈ Finset.range D, (along p a b).coeff d * ((k : Rat) / n) ^ d := by
    have place : partPoint a b n k = a + (b - a) * (k / n) := by
      rw [partPoint_eq]
      ring
    rw [place, ← eval_along, Polynomial.eval_eq_sum_range']
    exact (natDegree_along_le p a b).trans_lt below
  have swapped : ∑ k ∈ Finset.range n, (p.eval (partPoint a b n k) +
        p.eval (partPoint a b n (k + 1))) / 2 =
      ∑ d ∈ Finset.range D, (along p a b).coeff d *
        ∑ k ∈ Finset.range n, (((k : Rat) / n) ^ d + ((k + 1 : Nat) / n : Rat) ^ d) / 2 := by
    simp only [value, Finset.mul_sum]
    rw [Finset.sum_comm]
    apply Finset.sum_congr rfl
    intro k _
    rw [← Finset.sum_add_distrib, Finset.sum_div]
    apply Finset.sum_congr rfl
    intro d _
    ring
  rw [trapezoidSum, swapped, div_mul_eq_mul_div, mul_div_assoc, Finset.sum_div]
  simp only [powerSum, mul_div_assoc]

/-- **The trapezoidal rule misses the integral of a polynomial by even powers.** -/
theorem trapezoidSum_polynomial {m : Nat} {p : Polynomial Rat} (degree : p.natDegree ≤ 2 * m + 1)
    (a b : Rat) :
    ∃ c : Nat → Rat, ∀ n, n ≠ 0 → trapezoidSum (fun x => p.eval x) a b n =
      integralOf p a b + ∑ k ∈ Finset.range m, c k / n ^ (2 * (k + 1)) := by
  refine ⟨fun k => (b - a) * ∑ d ∈ Finset.range (2 * m + 2),
    (along p a b).coeff d * faulhaber d (2 * (k + 1)), fun n nonzero => ?_⟩
  have below : p.natDegree < 2 * m + 2 := by omega
  have term (d : Nat) (inside : d ∈ Finset.range (2 * m + 2)) :
      (along p a b).coeff d * powerSum d n = (along p a b).coeff d / (d + 1) +
        ∑ k ∈ Finset.range m,
          (along p a b).coeff d * faulhaber d (2 * (k + 1)) / n ^ (2 * (k + 1)) := by
    rw [Finset.mem_range] at inside
    rw [powerSum_eq (m := m) (by omega) nonzero, mul_add, mul_one_div, Finset.mul_sum]
    simp only [mul_div_assoc]
  rw [trapezoidSum_eq_sum below, integralOf_eq_sum a b below, Finset.sum_congr rfl term,
    Finset.sum_add_distrib, mul_add, Finset.sum_comm]
  congr 1
  rw [Finset.mul_sum]
  apply Finset.sum_congr rfl
  intro k _
  rw [← Finset.sum_div, mul_div_assoc]

end SciCalc.Quadrature
