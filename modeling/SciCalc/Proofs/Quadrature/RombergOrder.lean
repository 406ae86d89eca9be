/-
# SciCalc.Proofs.Quadrature.RombergOrder -- Romberg's extrapolation reaches its order

The trapezoidal rule on `2 ^ i` panels misses the integral of a polynomial by multiples of powers
of `4 ^ (-i)`.  From row to row the power `k + 1` shrinks by `4 ^ (k + 1)`, and the column with the
factor `4 ^ (j + 1)` multiplies it by `(4 ^ (j + 1) - 4 ^ (k + 1)) / (4 ^ (j + 1) - 1)`
(`entry_succ`).  So every column cancels one power, the next one, and keeps those that are gone:
behind `m` columns nothing is left of `m` powers (`entry_of_le`).

The entries of a row that a run computes are these, by induction on the rows and in each of them
on its columns.  With a tolerance that no difference is below, a run ends with the last row
allowed, and its result is the entry in the last column there.
-/
import SciCalc.Proofs.Quadrature.EvenPowers

namespace SciCalc.Quadrature

set_option autoImplicit false

open SciCalc.Number
open Polynomial (X aeval)

/-! ## What the columns leave -/

/-- Entry `j` of row `i`, where the rule on `n` panels gives a value and, for every `k` below `m`,
`c k` times the power `2 (k + 1)` of `1 / n`. -/
def entry (value : Rat) (c : Nat → Rat) (m j i : Nat) : Rat :=
  value + ∑ k ∈ Finset.range m,
    (∏ l ∈ Finset.range j, ((4 : Rat) ^ (l + 1) - 4 ^ (k + 1)) / (4 ^ (l + 1) - 1)) *
      (c k / (2 ^ i) ^ (2 * (k + 1)))

variable (value : Rat) (c : Nat → Rat) (m : Nat)

theorem entry_zero (i : Nat) :
    entry value c m 0 i = value + ∑ k ∈ Finset.range m, c k / (2 ^ i : Nat) ^ (2 * (k + 1)) := by
  simp [entry]

/-- A column takes from a row and the one before it what they leave of its power. -/
theorem entry_succ (j i : Nat) :
    (4 ^ (j + 1) * entry value c m j (i + 1) - entry value c m j i) / (4 ^ (j + 1) - 1) =
      entry value c m (j + 1) (i + 1) := by
  have divisor : (4 : Rat) ^ (j + 1) - 1 ≠ 0 := by
    have large : (1 : Rat) < 4 ^ (j + 1) := one_lt_pow₀ (by norm_num) j.succ_ne_zero
    linarith
  have shrinks (k : Nat) : c k / ((2 : Rat) ^ i) ^ (2 * (k + 1)) =
      4 ^ (k + 1) * (c k / (2 ^ (i + 1)) ^ (2 * (k + 1))) := by
    have powers : ((2 : Rat) ^ (i + 1)) ^ (2 * (k + 1)) =
        4 ^ (k + 1) * (2 ^ i) ^ (2 * (k + 1)) := by
      rw [pow_succ', mul_pow, pow_mul 2 2, show (2 : Rat) ^ 2 = 4 by norm_num]
    rw [powers]
    field_simp
  unfold entry
  -- Written with the powers of the new row, both sums differ in their factors only.
  simp only [shrinks]
  rw [div_eq_iff divisor, mul_add, add_mul, Finset.mul_sum, add_sub_add_comm,
    ← Finset.sum_sub_distrib, Finset.sum_mul]
  congr 1
  · ring
  · apply Finset.sum_congr rfl
    intro k _
    rw [Finset.prod_range_succ]
    field_simp

/-- Column `j` has the power that the column before it left first, and nothing of it stays. -/
theorem entry_of_le {j : Nat} (beyond : m ≤ j) (i : Nat) : entry value c m j i = value := by
  have gone : ∀ k ∈ Finset.range m,
      (∏ l ∈ Finset.range j, ((4 : Rat) ^ (l + 1) - 4 ^ (k + 1)) / (4 ^ (l + 1) - 1)) *
        (c k / (2 ^ i) ^ (2 * (k + 1))) = 0 := by
    intro k inside
    have own : k ∈ Finset.range j := by
      rw [Finset.mem_range] at inside ⊢
      omega
    rw [Finset.prod_eq_zero own (by rw [sub_self, zero_div]), zero_mul]
  rw [entry, Finset.sum_eq_zero gone, add_zero]

/-- The entries behind the first, from the row before. -/
theorem extrapolate_entries (i : Nat) (count j : Nat) :
    extrapolate (j + 1) (entry value c m j (i + 1))
        ((List.range' j count).map fun l => entry value c m l i) =
      (List.range' (j + 1) count).map fun l => entry value c m l (i + 1) := by
  induction count generalizing j with
  | zero => rfl
  | succ count ih =>
      rw [List.range'_succ, List.range'_succ, List.map_cons, List.map_cons, extrapolate_cons_rat,
        entry_succ, ih]

/-! ## The rows of a polynomial -/

section Rows

variable {value c m} {ε : Type} {f : Rat → Except ε Rat} {a b tolerance : Rat} {rows : Int}

/-- Where the trapezoidal rule misses a value by even powers, so do the rows. -/
theorem Computes.entries
    (expansion : ∀ n, n ≠ 0 → trapezoidSum (knownValue f) a b n =
      value + ∑ k ∈ Finset.range m, c k / n ^ (2 * (k + 1)))
    {number : Nat} {previous row : List Rat}
    (computed : Computes f a b tolerance rows number previous row) :
    row = (List.range' 0 (number + 1)).map fun j => entry value c m j number := by
  have leading (i : Nat) : trapezoidSum (knownValue f) a b (2 ^ i) = entry value c m 0 i := by
    rw [expansion _ (pow_pos two_pos i).ne', entry_zero]
  induction computed with
  | first found =>
      obtain ⟨-, rfl⟩ := firstRow_eq_ok found
      rw [← pow_zero 2, leading]
      rfl
  | @next number before previous row computed _ _ found ih =>
      obtain ⟨known, rest, start⟩ := computed.starts
      rw [start] at found
      obtain ⟨-, same⟩ := nextRow_eq_ok known found
      -- The form of `start` was needed to compute the row, that of `ih` to know its entries.
      rw [same, ← start, ih, leading, extrapolate_entries]
      rfl

theorem lastEntry_entries (number : Nat) :
    lastEntry ((List.range' 0 (number + 1)).map fun j => entry value c m j number) =
      entry value c m number number := by
  rw [List.range'_concat, List.map_append, lastEntry, List.map_singleton]
  simp

/-- A function that has values everywhere has all rows. -/
theorem exists_firstRow (values : ∀ x, ∃ y, f x = .ok y) (a b : Rat) :
    ∃ row, firstRow f a b = .ok row := by
  rw [firstRow, sample_eq_ok_iff.2 ⟨values a, rfl⟩, sample_eq_ok_iff.2 ⟨values b, rfl⟩]
  exact ⟨_, rfl⟩

theorem exists_nextRow (values : ∀ x, ∃ y, f x = .ok y) (a b : Rat) (number : Nat)
    (previous : List Rat) : ∃ row, nextRow f a b number previous = .ok row := by
  rw [nextRow, sumOver_eq_ok_iff.2 ⟨fun x _ => values x, rfl⟩]
  exact ⟨_, rfl⟩

end Rows

/-- **Romberg's extrapolation reaches its order.**  For a polynomial of degree `2 m + 1` or less
and more than `m` rows, whatever the bounds, a run that no agreement of rows can end before
returns the integral. -/
theorem romberg_polynomial {ε : Type} {f : Rat → Except ε Rat} {p : Polynomial Rat} {m : Nat}
    (values : ∀ x, f x = .ok (p.eval x)) (degree : p.natDegree ≤ 2 * m + 1) (a b : Rat)
    {rows : Int} (enough : (m : Int) + 1 ≤ rows) {tolerance : Rat} (never : tolerance ≤ 0) :
    ∃ value : Rat, (value : ℝ) = (∫ x in (a : ℝ)..b, aeval x p) ∧
      (romberg f a b rows tolerance).outcome = .ok value := by
  have total (x : Rat) : ∃ y, f x = .ok y := ⟨_, values x⟩
  have same : knownValue f = fun x => p.eval x := by
    funext x
    rw [knownValue, values]
  obtain ⟨c, expansion⟩ := trapezoidSum_polynomial degree a b
  rw [← same] at expansion
  refine ⟨integralOf p a b, cast_integralOf p a b, ?_⟩
  rcases romberg_cases f a b tolerance rows with
    ⟨cause, failed, -⟩ | ⟨number, previous, row, computed, ends, returned⟩ |
      ⟨number, previous, row, cause, -, -, failed, -⟩
  · obtain ⟨row, found⟩ := exists_firstRow total a b
    cases failed.symm.trans found
  · have last : m ≤ number := by
      rcases ends with ⟨-, close⟩ | all
      · rw [abs_rat] at close
        exact absurd (close.trans_le never) (abs_nonneg _).not_gt
      · omega
    rw [returned, computed.entries expansion, lastEntry_entries, entry_of_le _ _ _ last]
  · obtain ⟨next, found⟩ := exists_nextRow total a b (number + 1) row
    cases failed.symm.trans found

/-- The polynomial `x ^ 5 - 3 x ^ 2` from `2` down to `-1`, in the three rows that its degree
needs. -/
theorem romberg_polynomial_quintic :
    let f : Rat → Except Unit Rat := fun x => .ok (x * x * x * x * x - 3 * x * x)
    let p : Polynomial Rat := X ^ 5 - 3 * X ^ 2
    (∀ x, f x = .ok (p.eval x)) ∧ p.natDegree ≤ 2 * 2 + 1 ∧ ((2 : Nat) : Int) + 1 ≤ 3 ∧
      (0 : Rat) ≤ 0 ∧ (romberg f 2 (-1) 3 0).outcome = .ok (-3 / 2) ∧
      ((-3 / 2 : Rat) : ℝ) = ∫ x in ((2 : Rat) : ℝ)..((-1 : Rat) : ℝ), aeval x p := by
  intro f p
  have values : ∀ x, f x = .ok (p.eval x) := by
    intro x
    simp only [f, p, Polynomial.eval_sub, Polynomial.eval_mul, Polynomial.eval_pow,
      Polynomial.eval_X, Polynomial.eval_ofNat]
    congr 1
    ring
  have degree : p.natDegree ≤ 2 * 2 + 1 := by
    simp only [p]
    compute_degree
  have enough : ((2 : Nat) : Int) + 1 ≤ 3 := by norm_num
  have never : (0 : Rat) ≤ 0 := le_rfl
  obtain ⟨value, real, reached⟩ := romberg_polynomial values degree 2 (-1) enough never
  have returned : (romberg f 2 (-1) 3 0).outcome = .ok (-3 / 2) := by
    decide +kernel
  obtain rfl : value = -3 / 2 := Except.ok.inj (reached.symm.trans returned)
  exact ⟨values, degree, enough, never, returned, real⟩

end SciCalc.Quadrature
