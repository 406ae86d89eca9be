/-
# SciCalc.Proofs.Quadrature.RombergRows -- the first columns of Romberg's method

Romberg's method computes rows, one after the other, until two last entries agree, a value is
missing, or no more rows are allowed.  `Computes` are the rows that a run computes, and a run
gives the last entry of one of them or fails where the next one does (`romberg_cases`).  This
much does not depend on the numbers.

Over the rationals a row knows the function at all points that divide the range evenly, although
it looks only at those that the rows before it have not seen (`Computes.starts`).  Its first entry
is what the trapezoidal rule gives with as many panels: halving the panels halves the entry before
and adds the new points.  Where the trapezoidal rule has panels of half the width, a third of its
excess over the wider ones makes Simpson's rule of it, panel by panel; that is the second entry.
-/
import Mathlib.Algebra.BigOperators.Field
import SciCalc.Proofs.Quadrature.ErrorBudget
import SciCalc.Quadrature.Trapezoid

namespace SciCalc.Quadrature

set_option autoImplicit false

open SciCalc.Number

/-! ## The run -/

section Run

variable {α ε : Type} [Scalar α]

/-- A row behind the second whose last entry agrees with that of the row before. -/
def Settled (tolerance : α) (number : Nat) (previous row : List α) : Prop :=
  1 < number ∧ Scalar.abs (lastEntry row - lastEntry previous) < tolerance

/-- The rows that a run computes, each with its number and the row before it (none before the
first). -/
inductive Computes (f : α → Except ε α) (a b tolerance : α) (rows : Int) :
    Nat → (previous row : List α) → Prop
  | first {row : List α} (found : firstRow f a b = .ok row) :
      Computes f a b tolerance rows 0 [] row
  | next {number : Nat} {before previous row : List α}
      (computed : Computes f a b tolerance rows number before previous)
      (allowed : (number : Int) + 1 < rows) (goesOn : ¬ Settled tolerance number before previous)
      (found : nextRow f a b (number + 1) previous = .ok row) :
      Computes f a b tolerance rows (number + 1) previous row

variable {f : α → Except ε α} {a b tolerance : α} {rows : Int}

/-- A run gives the last entry of a row that is settled or the last one allowed, or fails with
the row that it would compute next. -/
def Ends (f : α → Except ε α) (a b tolerance : α) (rows : Int)
    (outcome : Except (Failure α ε) α) : Prop :=
  (∃ number previous row, Computes f a b tolerance rows number previous row ∧
    (Settled tolerance number previous row ∨ rows ≤ number + 1) ∧
    outcome = .ok (lastEntry row)) ∨
  ∃ number previous row cause, Computes f a b tolerance rows number previous row ∧
    (number : Int) + 1 < rows ∧ nextRow f a b (number + 1) row = .error cause ∧
    outcome = .error cause

theorem rombergRows_ends (count : Nat) {number : Nat} {previous row : List α}
    (computed : Computes f a b tolerance rows number previous row)
    (goesOn : ¬ Settled tolerance number previous row)
    (all : number + 1 + count = max rows.toNat 1) :
    Ends f a b tolerance rows
      (rombergRows f a b tolerance (List.range' (number + 1) count) row).outcome := by
  -- What carries the induction is that the last of the rows left is the last one allowed.
  induction count generalizing number previous row with
  | zero => exact .inl ⟨number, previous, row, computed, .inr (by omega), rfl⟩
  | succ count ih =>
      have more : (number : Int) + 1 < rows := by omega
      rw [List.range'_succ, rombergRows, Report.outcome_bind]
      cases found : nextRow f a b (number + 1) row with
      | error cause =>
          exact .inr ⟨number, previous, row, cause, computed, more, found, rfl⟩
      | ok next =>
          have following := computed.next more goesOn found
          show Ends f a b tolerance rows (Report.outcome (if _ then _ else _))
          by_cases settled :
              1 < number + 1 ∧ Scalar.abs (lastEntry next - lastEntry row) < tolerance
          · rw [if_pos settled]
            exact .inl ⟨number + 1, row, next, following, .inl settled, rfl⟩
          · rw [if_neg settled]
            exact ih following settled (by omega)

/-- A run fails with the first row, or ends as it does after it. -/
theorem romberg_cases (f : α → Except ε α) (a b tolerance : α) (rows : Int) :
    (∃ cause, firstRow f a b = .error cause ∧
      (romberg f a b rows tolerance).outcome = .error cause) ∨
    Ends f a b tolerance rows (romberg f a b rows tolerance).outcome := by
  have numbers : (List.range (rows.toNat - 1)).map (· + 1) =
      List.range' (0 + 1) (rows.toNat - 1) := by
    rw [List.range'_eq_map_range]
    exact List.map_congr_left fun k _ => Nat.add_comm k 1
  rw [romberg, Report.outcome_bind, Report.ofExcept, numbers]
  cases found : firstRow f a b with
  | error cause => exact .inl ⟨cause, rfl, rfl⟩
  | ok row =>
      have start : Computes f a b tolerance rows 0 [] row := .first found
      have goesOn : ¬ Settled tolerance 0 [] row := fun settled => by
        have := settled.1
        omega
      exact .inr (rombergRows_ends _ start goesOn (by omega))

end Run

/-! ## Sums over equal parts -/

/-- Point `k` of a range that is divided into `n` equal parts. -/
def partPoint (a b : Rat) (n k : Nat) : Rat := gridPoint a ((b - a) / n) k

/-- The trapezoidal rule, panel by panel. -/
def trapezoidSum (g : Rat → Rat) (a b : Rat) (n : Nat) : Rat :=
  (b - a) / n * ∑ k ∈ Finset.range n, (g (partPoint a b n k) + g (partPoint a b n (k + 1))) / 2

/-- Simpson's rule on each of so many equal panels, and what they give together. -/
def compositeSimpson {ε : Type} (f : Rat → Except ε Rat) (a b : Rat) (panels : Nat) :
    Except (Failure Rat ε) Rat := do
  let parts ← (List.range panels).mapM fun k =>
    simpson f (partPoint a b panels k) (partPoint a b panels (k + 1))
  return parts.sum

theorem sum_range_two_mul (g : Nat → Rat) (n : Nat) :
    ∑ k ∈ Finset.range (2 * n), g k = ∑ k ∈ Finset.range n, (g (2 * k) + g (2 * k + 1)) := by
  induction n with
  | zero => rfl
  | succ n ih =>
      rw [Nat.mul_succ, Finset.sum_range_succ, Finset.sum_range_succ, ih, Finset.sum_range_succ,
        add_assoc]

/-- The ends of the panels count by half, which makes a difference at the ends of all. -/
theorem sum_half_add_half (g : Nat → Rat) (n : Nat) :
    ∑ k ∈ Finset.range n, (g k + g (k + 1)) / 2 =
      ∑ k ∈ Finset.range n, g k + (g n - g 0) / 2 := by
  rw [← Finset.sum_range_sub, Finset.sum_div, ← Finset.sum_add_distrib]
  apply Finset.sum_congr rfl
  intro k _
  ring

theorem gridPoint_rat (a h : Rat) (k : Nat) : gridPoint a h k = a + k * h := by
  show a + ((k : Int) : Rat) * h = _
  rw [Int.cast_natCast]

theorem partPoint_eq (a b : Rat) (n k : Nat) : partPoint a b n k = a + k * ((b - a) / n) :=
  gridPoint_rat _ _ _

theorem partPoint_zero (a b : Rat) (n : Nat) : partPoint a b n 0 = a := by
  rw [partPoint_eq, Nat.cast_zero, zero_mul, add_zero]

theorem partPoint_last (a b : Rat) {n : Nat} (nonzero : n ≠ 0) : partPoint a b n n = b := by
  have scale : (n : Rat) ≠ 0 := Nat.cast_ne_zero.2 nonzero
  rw [partPoint_eq, mul_div_cancel₀ _ scale, add_sub_cancel]

/-- Dividing every part again keeps the points that were there. -/
theorem partPoint_even (a b : Rat) (n k : Nat) :
    partPoint a b (2 * n) (2 * k) = partPoint a b n k := by
  rw [partPoint_eq, partPoint_eq]
  push_cast
  rw [mul_comm 2 (k : Rat), mul_assoc, mul_div_assoc', mul_div_mul_left _ _ two_ne_zero]

/-- The new points lie in the middle of the parts. -/
theorem partPoint_odd (a b : Rat) (n k : Nat) :
    partPoint a b (2 * n) (2 * k + 1) = middle (partPoint a b n k) (partPoint a b n (k + 1)) := by
  rw [middle_rat, partPoint_eq, partPoint_eq, partPoint_eq]
  push_cast
  rw [mul_comm 2 (n : Rat), ← div_div]
  ring

/-- The rule with panels of half the width needs the new points only. -/
theorem trapezoidSum_two_mul (g : Rat → Rat) (a b : Rat) (n : Nat) :
    trapezoidSum g a b (2 * n) = trapezoidSum g a b n / 2 +
      (b - a) / (2 * n : Nat) * ∑ k ∈ Finset.range n, g (partPoint a b (2 * n) (2 * k + 1)) := by
  have panels (k : Nat) :
      (g (partPoint a b (2 * n) (2 * k)) + g (partPoint a b (2 * n) (2 * k + 1))) / 2 +
        (g (partPoint a b (2 * n) (2 * k + 1)) + g (partPoint a b (2 * n) (2 * k + 1 + 1))) / 2 =
      (g (partPoint a b n k) + g (partPoint a b n (k + 1))) / 2 +
        g (partPoint a b (2 * n) (2 * k + 1)) := by
    have far : 2 * k + 1 + 1 = 2 * (k + 1) := by omega
    rw [far, partPoint_even, partPoint_even]
    ring
  unfold trapezoidSum
  rw [sum_range_two_mul, Finset.sum_congr rfl fun k _ => panels k, Finset.sum_add_distrib, mul_add]
  push_cast
  rw [mul_comm 2 (n : Rat), ← div_div]
  ring

/-- A third of what the narrower panels give more makes Simpson's rule of the trapezoidal rule. -/
theorem simpson_of_trapezoids (g : Rat → Rat) (a b : Rat) (n : Nat) :
    (4 * trapezoidSum g a b (2 * n) - trapezoidSum g a b n) / 3 =
      ∑ k ∈ Finset.range n, estimate (partPoint a b n k) (partPoint a b n (k + 1))
        (g (partPoint a b n k)) (g (partPoint a b n (k + 1)))
        (g (middle (partPoint a b n k) (partPoint a b n (k + 1)))) := by
  have panel (k : Nat) : estimate (partPoint a b n k) (partPoint a b n (k + 1))
        (g (partPoint a b n k)) (g (partPoint a b n (k + 1)))
        (g (middle (partPoint a b n k) (partPoint a b n (k + 1)))) =
      (b - a) / n / 3 * ((g (partPoint a b n k) + g (partPoint a b n (k + 1))) / 2) +
        2 * ((b - a) / n) / 3 * g (partPoint a b (2 * n) (2 * k + 1)) := by
    have width : partPoint a b n (k + 1) - partPoint a b n k = (b - a) / n := by
      rw [partPoint_eq, partPoint_eq]
      push_cast
      ring
    rw [estimate_rat, width, partPoint_odd]
    ring
  rw [Finset.sum_congr rfl fun k _ => panel k, Finset.sum_add_distrib, ← Finset.mul_sum,
    ← Finset.mul_sum, trapezoidSum_two_mul, trapezoidSum]
  push_cast
  rw [mul_comm 2 (n : Rat), ← div_div]
  ring

/-! ## The rules over the rationals -/

section Rational

variable {ε : Type} {f : Rat → Except ε Rat}

theorem sample_eq_ok_iff {x y : Rat} :
    sample f x = .ok y ↔ (∃ z, f x = .ok z) ∧ y = knownValue f x := by
  rw [sample_rat, knownValue]
  cases f x with
  | error cause => simp
  | ok z => simp [eq_comm]

/-- The parts of a sum, the last one first. -/
theorem foldlM_eq_ok_iff {points parts result : List Rat} :
    points.foldlM (fun parts x => sample f x >>= fun y => pure (y :: parts)) parts = .ok result ↔
      (∀ x ∈ points, ∃ y, f x = .ok y) ∧
        result = (points.map (knownValue f)).reverse ++ parts := by
  induction points generalizing parts with
  | nil => simp [pure, Except.pure, eq_comm]
  | cons x points ih =>
      rw [List.foldlM_cons, bind_assoc, bind_eq_ok]
      simp only [pure_bind, ih, sample_eq_ok_iff, List.forall_mem_cons, List.map_cons,
        List.reverse_cons, List.append_assoc, List.singleton_append]
      constructor
      · rintro ⟨y, ⟨first, rfl⟩, rest, same⟩
        exact ⟨⟨first, rest⟩, same⟩
      · rintro ⟨⟨first, rest⟩, same⟩
        exact ⟨knownValue f x, ⟨first, rfl⟩, rest, same⟩

/-- Over the rationals a sum is exact, and there is one if all values are there. -/
theorem sumOver_eq_ok_iff {points : List Rat} {sum : Rat} :
    sumOver f points = .ok sum ↔
      (∀ x ∈ points, ∃ y, f x = .ok y) ∧ sum = (points.map (knownValue f)).sum := by
  have unfolded : sumOver f points =
      points.foldlM (fun parts x => sample f x >>= fun y => pure (y :: parts)) [] >>=
        fun parts => .ok (List.foldr (· + ·) 0 parts) := rfl
  rw [unfolded, bind_eq_ok]
  simp only [foldlM_eq_ok_iff, List.append_nil]
  constructor
  · rintro ⟨parts, ⟨known, rfl⟩, total⟩
    refine ⟨known, ?_⟩
    rw [← Except.ok.inj total, ← List.sum_eq_foldr, List.sum_reverse]
  · rintro ⟨known, rfl⟩
    refine ⟨_, ⟨known, rfl⟩, ?_⟩
    rw [← List.sum_eq_foldr, List.sum_reverse]

/-- The function has values at all points that divide the range into `n` equal parts. -/
def HasValues (f : Rat → Except ε Rat) (a b : Rat) (n : Nat) : Prop :=
  ∀ k ≤ n, ∃ y, f (partPoint a b n k) = .ok y

variable {a b : Rat} {n : Nat}

theorem HasValues.sample_eq (known : HasValues f a b n) {k : Nat} (inside : k ≤ n) :
    sample f (partPoint a b n k) = .ok (knownValue f (partPoint a b n k)) :=
  sample_eq_ok_iff.2 ⟨known k inside, rfl⟩

theorem widthOf_rat (nonzero : n ≠ 0) :
    (widthOf a b n : Except (Failure Rat ε) Rat) = .ok ((b - a) / n) := by
  have test : (((n : Int) : Rat) == (0.0 : Rat)) = false := by
    rw [Int.cast_natCast, zero_rat, beq_eq_false_iff_ne]
    exact Nat.cast_ne_zero.2 nonzero
  have unfolded : (widthOf a b n : Except (Failure Rat ε) Rat) =
      (if ((n : Int) : Rat) == (0.0 : Rat) then (.error .noParts : Except PartFault Rat)
        else .ok ((b - a) / ((n : Int) : Rat))).mapError fun cause => .trouble (.parts cause) := rfl
  rw [unfolded, test, Int.cast_natCast]
  rfl

theorem sum_map_range (g : Nat → Rat) (n : Nat) :
    ((List.range n).map g).sum = ∑ k ∈ Finset.range n, g k := by
  rfl

/-- The inner points count once, the ends by half. -/
theorem trapezoidSum_succ (g : Rat → Rat) (a b : Rat) (m : Nat) :
    trapezoidSum g a b (m + 1) = (b - a) / (m + 1 : Nat) *
      ((g a + g b) / 2 + ∑ k ∈ Finset.range m, g (partPoint a b (m + 1) (k + 1))) := by
  have lower : ∑ k ∈ Finset.range (m + 1), g (partPoint a b (m + 1) k) =
      (∑ k ∈ Finset.range m, g (partPoint a b (m + 1) (k + 1))) + g a := by
    rw [Finset.sum_range_succ', partPoint_zero]
  rw [trapezoidSum, sum_half_add_half fun k => g (partPoint a b (m + 1) k), lower,
    partPoint_zero, partPoint_last a b m.succ_ne_zero]
  ring

/-- The trapezoidal rule is the sum of its panels. -/
theorem trapezoid_eq (known : HasValues f a b n) (nonzero : n ≠ 0) :
    trapezoid f a b n = .ok (trapezoidSum (knownValue f) a b n) := by
  obtain ⟨m, rfl⟩ := Nat.exists_eq_succ_of_ne_zero nonzero
  have left := known.sample_eq (Nat.zero_le _)
  have right := known.sample_eq le_rfl
  rw [partPoint_zero] at left
  rw [partPoint_last a b nonzero] at right
  have panels : (checkPanels ((m + 1 : Nat) : Int) : Except (Failure Rat ε) Unit) = .ok () :=
    if_neg (by omega)
  have numbers : ((List.range (((m + 1 : Nat) : Int).toNat - 1)).map (· + 1)).map
      (gridPoint a ((b - a) / (m + 1 : Nat))) =
      (List.range m).map fun k => partPoint a b (m + 1) (k + 1) := by
    rw [Int.toNat_natCast, Nat.add_sub_cancel, List.map_map]
    rfl
  have inner : sumOver f ((List.range m).map fun k => partPoint a b (m + 1) (k + 1)) =
      .ok (∑ k ∈ Finset.range m, knownValue f (partPoint a b (m + 1) (k + 1))) := by
    refine sumOver_eq_ok_iff.2 ⟨?_, ?_⟩
    · intro x inside
      obtain ⟨k, small, rfl⟩ := List.mem_map.1 inside
      rw [List.mem_range] at small
      exact known (k + 1) (by omega)
    · rw [List.map_map, ← sum_map_range]
      rfl
  rw [trapezoid, panels, widthOf_rat nonzero]
  simp only [bind, Except.bind]
  rw [numbers, inner, left, right, trapezoidSum_succ]
  show Except.ok (_ * ((_ + _) / (2.0 : Rat) + _)) = _
  rw [two_rat]

theorem mapM_eq_ok {β γ δ : Type} {step : β → Except δ γ} {result : β → γ} {xs : List β}
    (each : ∀ x ∈ xs, step x = .ok (result x)) : xs.mapM step = .ok (xs.map result) := by
  induction xs with
  | nil => rfl
  | cons x xs ih =>
      rw [List.mapM_cons, each x List.mem_cons_self,
        ih fun z inside => each z (List.mem_cons_of_mem x inside)]
      rfl

/-- Simpson's rule over all panels needs the points between them and in their middles. -/
theorem compositeSimpson_eq (known : HasValues f a b (2 * n)) :
    compositeSimpson f a b n =
      .ok ((4 * trapezoidSum (knownValue f) a b (2 * n) - trapezoidSum (knownValue f) a b n) / 3) := by
  have panel : ∀ k ∈ List.range n, simpson f (partPoint a b n k) (partPoint a b n (k + 1)) =
      .ok (estimate (partPoint a b n k) (partPoint a b n (k + 1))
        (knownValue f (partPoint a b n k)) (knownValue f (partPoint a b n (k + 1)))
        (knownValue f (middle (partPoint a b n k) (partPoint a b n (k + 1))))) := by
    intro k inside
    rw [List.mem_range] at inside
    have left := known.sample_eq (k := 2 * k) (by omega)
    have right := known.sample_eq (k := 2 * (k + 1)) (by omega)
    have mid := known.sample_eq (k := 2 * k + 1) (by omega)
    rw [partPoint_even] at left right
    rw [partPoint_odd] at mid
    exact simpson_eq_ok left right mid
  rw [compositeSimpson, mapM_eq_ok panel, simpson_of_trapezoids, ← sum_map_range]
  rfl

/-! ## The rows -/

theorem HasValues.two_mul (known : HasValues f a b n)
    (between : ∀ k < n, ∃ y, f (partPoint a b (2 * n) (2 * k + 1)) = .ok y) :
    HasValues f a b (2 * n) := by
  intro j inside
  rcases Nat.even_or_odd' j with ⟨k, rfl | rfl⟩
  · rw [partPoint_even]
    exact known k (by omega)
  · exact between k (by omega)

theorem firstRow_eq_ok {row : List Rat} (found : firstRow f a b = .ok row) :
    HasValues f a b 1 ∧ row = [trapezoidSum (knownValue f) a b 1] := by
  rw [firstRow] at found
  obtain ⟨fa, left, found⟩ := bind_eq_ok.1 found
  obtain ⟨fb, right, found⟩ := bind_eq_ok.1 found
  obtain ⟨leftKnown, rfl⟩ := sample_eq_ok_iff.1 left
  obtain ⟨rightKnown, rfl⟩ := sample_eq_ok_iff.1 right
  have last : partPoint a b 1 1 = b := partPoint_last a b Nat.one_ne_zero
  constructor
  · intro k inside
    rcases Nat.le_one_iff_eq_zero_or_eq_one.1 inside with rfl | rfl
    · rwa [partPoint_zero]
    · rwa [last]
  · have entry : trapezoidSum (knownValue f) a b 1 =
        (b - a) * (knownValue f a + knownValue f b) / (2.0 : Rat) := by
      rw [trapezoidSum_succ, two_rat, Finset.sum_range_zero]
      push_cast
      ring
    rw [entry]
    exact (Except.ok.inj found).symm

theorem midpoints_eq (a b : Rat) (number : Nat) :
    midpoints a ((b - a) / (2 * 2 ^ number : Nat)) (number + 1) =
      (List.range (2 ^ number)).map fun k => partPoint a b (2 * 2 ^ number) (2 * k + 1) := by
  rw [midpoints, Nat.add_sub_cancel, Nat.pow_eq, List.map_map]
  rfl

/-- A row starts with the trapezoidal rule on twice as many panels as the row before. -/
theorem nextRow_eq_ok {number : Nat} {rest row : List Rat} (known : HasValues f a b (2 ^ number))
    (found : nextRow f a b (number + 1)
      (trapezoidSum (knownValue f) a b (2 ^ number) :: rest) = .ok row) :
    HasValues f a b (2 ^ (number + 1)) ∧
      row = trapezoidSum (knownValue f) a b (2 ^ (number + 1)) ::
        extrapolate 1 (trapezoidSum (knownValue f) a b (2 ^ (number + 1)))
          (trapezoidSum (knownValue f) a b (2 ^ number) :: rest) := by
  have width : (b - a) / (Scalar.ofNat (Nat.pow 2 (number + 1)) : Rat) =
      (b - a) / (2 * 2 ^ number : Nat) := by
    show (b - a) / (((Nat.pow 2 (number + 1) : Nat) : Int) : Rat) = _
    rw [Int.cast_natCast, Nat.pow_eq, pow_succ']
  rw [nextRow, width, midpoints_eq] at found
  obtain ⟨sum, summed, found⟩ := bind_eq_ok.1 found
  obtain ⟨between, rfl⟩ := sumOver_eq_ok_iff.1 summed
  have double : 2 ^ (number + 1) = 2 * 2 ^ number := pow_succ' 2 number
  rw [double]
  constructor
  · refine known.two_mul fun k small => ?_
    exact between _ (List.mem_map.2 ⟨k, List.mem_range.2 small, rfl⟩)
  · rw [trapezoidSum_two_mul, ← two_rat, ← sum_map_range, ← Except.ok.inj found, List.map_map]
    rfl

/-- What is known of a row that a run computes. -/
theorem Computes.starts {tolerance : Rat} {rows : Int} {number : Nat} {previous row : List Rat}
    (computed : Computes f a b tolerance rows number previous row) :
    HasValues f a b (2 ^ number) ∧
      ∃ rest, row = trapezoidSum (knownValue f) a b (2 ^ number) :: rest := by
  induction computed with
  | first found =>
      obtain ⟨known, rfl⟩ := firstRow_eq_ok found
      exact ⟨known, [], rfl⟩
  | next computed _ _ found ih =>
      obtain ⟨known, rest, rfl⟩ := ih
      obtain ⟨more, rfl⟩ := nextRow_eq_ok known found
      exact ⟨more, _, rfl⟩

/-- Every further entry removes the power that belongs to its column. -/
theorem extrapolate_cons_rat (number : Nat) (last entry : Rat) (rest : List Rat) :
    extrapolate number last (entry :: rest) =
      (4 ^ number * last - entry) / (4 ^ number - 1) ::
        extrapolate (number + 1) ((4 ^ number * last - entry) / (4 ^ number - 1)) rest := by
  have factor : (Scalar.ofNat (Nat.pow 4 number) : Rat) = 4 ^ number := by
    show (((4 ^ number : Nat) : Int) : Rat) = _
    push_cast
    rfl
  have divisor : (Scalar.ofNat (Nat.pow 4 number - 1) : Rat) = 4 ^ number - 1 := by
    show (((4 ^ number - 1 : Nat) : Int) : Rat) = _
    rw [Int.cast_natCast, Nat.cast_sub (Nat.one_le_pow number 4 (by omega))]
    push_cast
    rfl
  rw [extrapolate, factor, divisor]

/-- **Romberg's first column is the trapezoidal rule, and his second is Simpson's.**  In every
row that a run computes, the first entry is what the trapezoidal rule gives on `2 ^ i` panels, if
`i` is the number of the row.  The second entry, which all rows but the first have, is what
Simpson's rule gives on half as many panels, added up.  A run that returns a value has it from
the end of such a row, which is settled or the last one allowed. -/
theorem romberg_columns (f : Rat → Except ε Rat) (a b tolerance : Rat) (rows : Int) :
    (∀ number previous row, Computes f a b tolerance rows number previous row →
      (∃ first, row[0]? = some first ∧ trapezoid f a b (2 ^ number : Nat) = .ok first) ∧
      ∀ before, number = before + 1 →
        ∃ second, row[1]? = some second ∧ compositeSimpson f a b (2 ^ before) = .ok second) ∧
    ∀ value, (romberg f a b rows tolerance).outcome = .ok value →
      ∃ number previous row, Computes f a b tolerance rows number previous row ∧
        (Settled tolerance number previous row ∨ rows ≤ number + 1) ∧ value = lastEntry row := by
  constructor
  · intro number previous row computed
    obtain ⟨known, rest, rfl⟩ := computed.starts
    refine ⟨⟨_, rfl, trapezoid_eq known (pow_pos two_pos number).ne'⟩, ?_⟩
    rintro before rfl
    cases computed with
    | next earlier _ _ found =>
        obtain ⟨knownBefore, restBefore, rfl⟩ := earlier.starts
        obtain ⟨-, same⟩ := nextRow_eq_ok knownBefore found
        rw [same, extrapolate_cons_rat, pow_one, show (4 : Rat) - 1 = 3 by norm_num]
        refine ⟨_, rfl, ?_⟩
        rw [pow_succ'] at known ⊢
        exact compositeSimpson_eq known
  · intro value returned
    rcases romberg_cases f a b tolerance rows with
      ⟨cause, -, failed⟩ | ⟨number, previous, row, computed, ends, gives⟩ |
        ⟨number, previous, row, cause, -, -, -, failed⟩
    · cases failed.symm.trans returned
    · exact ⟨number, previous, row, computed, ends, Except.ok.inj (returned.symm.trans gives)⟩
    · cases failed.symm.trans returned

/-- The fourth power from `0` to `2` in three rows: the last of them starts with the trapezoidal
rule on four panels and Simpson's rule on two. -/
theorem romberg_columns_power :
    let f : Rat → Except Unit Rat := fun x => .ok (x * x * x * x)
    Computes f 0 2 0 3 2 [9, 20 / 3] [113 / 16, 77 / 12, 32 / 5] ∧
      trapezoid f 0 2 4 = .ok (113 / 16) ∧ compositeSimpson f 0 2 2 = .ok (77 / 12) := by
  intro f
  have first : Computes f 0 2 0 3 0 [] [16] := .first (by decide +kernel)
  have second : Computes f 0 2 0 3 1 [16] [9, 20 / 3] :=
    first.next (by decide) (fun settled => absurd settled.1 (by decide)) (by decide +kernel)
  have third : Computes f 0 2 0 3 2 [9, 20 / 3] [113 / 16, 77 / 12, 32 / 5] :=
    second.next (by decide) (fun settled => absurd settled.1 (by decide)) (by decide +kernel)
  obtain ⟨⟨one, isFirst, trapezoids⟩, others⟩ := (romberg_columns f 0 2 0 3).1 2 _ _ third
  obtain ⟨two, isSecond, parabolas⟩ := others 1 rfl
  cases isFirst
  cases isSecond
  exact ⟨third, trapezoids, parabolas⟩

end Rational

end SciCalc.Quadrature
