/-
# SciCalc.Proofs.Quadrature.CubicExactness -- Simpson's rule is exact on cubics

Over the rationals Simpson's rule gives the integral of a polynomial of degree three or less over
every interval (`exact_cubic`).  So the two estimates of an interval are equal, whatever the
interval is, and both are its integral (`Exact.exists_halves`).

They agree for a tolerance that is not negative, and never for a negative one: either the range
is accepted as a whole, or every interval in it is halved as often as allowed.  In both cases the
accepted intervals add up to the integral, since the leading error that is taken away is zero.
Only where halvings can be nested less often than they are allowed, a negative tolerance leaves
a range without an integral.
-/
import SciCalc.Proofs.Quadrature.ErrorBudget
import SciCalc.Proofs.Quadrature.PolynomialIntegral

namespace SciCalc.Quadrature

set_option autoImplicit false

open SciCalc.Number
open Polynomial (C X aeval)

/-- Simpson's rule gives the area of a function over every interval, and areas over intervals
side by side add up. -/
structure Exact (g : Rat → Rat) (area : Rat → Rat → Rat) : Prop where
  panel : ∀ a b, estimate a b (g a) (g b) (g (middle a b)) = area a b
  adjacent : ∀ a b c, area a c + area c b = area a b

/-- Equal estimates agree unless the tolerance is negative. -/
theorem agree_self (whole tolerance : Rat) :
    agree whole whole tolerance = decide (0 ≤ tolerance) := by
  rw [agree_rat, sub_self, abs_zero, decide_eq_decide]
  constructor <;> intro h <;> linarith

/-- An interval accepted with equal estimates contributes either of them. -/
theorem value_accepted (a b tolerance whole : Rat) :
    (Refinement.accepted ⟨a, b, tolerance, whole, whole⟩).value = whole := by
  rw [Refinement.value, Panel.value_rat, sub_self, zero_div, add_zero]

namespace Exact

variable {ε : Type} {f : Rat → Except ε Rat} {g : Rat → Rat} {area : Rat → Rat → Rat}

theorem neg_area (areas : Exact g area) (a b : Rat) : -area b a = area a b := by
  have empty := areas.adjacent a a a
  have back := areas.adjacent a a b
  linarith

theorem simpson_eq (areas : Exact g area) (values : ∀ x, f x = .ok (g x)) (a b : Rat) :
    simpson f a b = .ok (area a b) := by
  rw [simpson_eq_ok (sample_rat.2 (values a)) (sample_rat.2 (values b)) (sample_rat.2 (values _)),
    areas.panel]

/-- The estimates on the halves are the areas over them. -/
theorem exists_halves (areas : Exact g area) (values : ∀ x, f x = .ok (g x)) (a b : Rat) :
    ∃ h, halves f a b (g a) (g b) (g (middle a b)) = .ok h ∧
      h.fl = g (middle a (middle a b)) ∧ h.fr = g (middle (middle a b) b) ∧
      h.left = area a (middle a b) ∧ h.right = area (middle a b) b ∧ h.sum = area a b := by
  have found : ∃ h, halves f a b (g a) (g b) (g (middle a b)) = .ok h ∧
      h.fl = g (middle a (middle a b)) ∧ h.fr = g (middle (middle a b) b) := by
    rw [halves, sample_rat.2 (values _), sample_rat.2 (values _)]
    exact ⟨_, rfl, rfl, rfl⟩
  obtain ⟨h, found, left, right⟩ := found
  obtain ⟨leftHalf, rightHalf⟩ := halves_rat found
  rw [left, areas.panel] at leftHalf
  rw [right, areas.panel] at rightHalf
  refine ⟨h, found, left, right, leftHalf, rightHalf, ?_⟩
  rw [Halves.sum, leftHalf, rightHalf, areas.adjacent]

/-- An interval that may not be halved is accepted, or has no estimate that may be. -/
theorem refine_zero (areas : Exact g area) (values : ∀ x, f x = .ok (g x)) (cut : Bool)
    (a b tolerance : Rat) :
    refine f cut 0 a b tolerance (area a b) (g a) (g b) (g (middle a b)) =
      if cut ∧ tolerance < 0 then .error (.trouble .tooDeep)
      else .ok (.accepted ⟨a, b, tolerance, area a b, area a b⟩) := by
  obtain ⟨h, found, -, -, -, -, sum⟩ := areas.exists_halves values a b
  have refused : (cut && !decide (0 ≤ tolerance)) = true ↔ cut ∧ tolerance < 0 := by simp
  rw [refine, found]
  simp only [bind, Except.bind, sum, agree_self, refused]
  split <;> rfl

/-- An interval that may be halved is accepted or halved, as the sign of the tolerance says. -/
theorem refine_succ (areas : Exact g area) (values : ∀ x, f x = .ok (g x)) (cut : Bool)
    (depth : Nat) (a b tolerance : Rat) :
    refine f cut (depth + 1) a b tolerance (area a b) (g a) (g b) (g (middle a b)) =
      if tolerance < 0 then do
        let left ← refine f cut depth a (middle a b) (tolerance / 2) (area a (middle a b))
          (g a) (g (middle a b)) (g (middle a (middle a b)))
        let right ← refine f cut depth (middle a b) b (tolerance / 2) (area (middle a b) b)
          (g (middle a b)) (g b) (g (middle (middle a b) b))
        return .halved left right
      else .ok (.accepted ⟨a, b, tolerance, area a b, area a b⟩) := by
  obtain ⟨h, found, left, right, leftHalf, rightHalf, sum⟩ := areas.exists_halves values a b
  rw [refine, found, ← left, ← right, ← leftHalf, ← rightHalf, ← two_rat, ← ite_not]
  simp only [bind, Except.bind, sum, agree_self, not_lt, decide_eq_true_eq]
  rfl

/-- For a tolerance that is not negative an interval is accepted at once. -/
theorem refine_of_nonneg (areas : Exact g area) (values : ∀ x, f x = .ok (g x)) (cut : Bool)
    (depth : Nat) (a b : Rat) {tolerance : Rat} (nonneg : 0 ≤ tolerance) :
    refine f cut depth a b tolerance (area a b) (g a) (g b) (g (middle a b)) =
      .ok (.accepted ⟨a, b, tolerance, area a b, area a b⟩) := by
  cases depth with
  | zero => rw [areas.refine_zero values, if_neg fun both => nonneg.not_gt both.2]
  | succ depth => rw [areas.refine_succ values, if_neg nonneg.not_gt]

/-- For a negative tolerance an interval is halved as often as allowed, and the parts add up. -/
theorem refine_of_neg (areas : Exact g area) (values : ∀ x, f x = .ok (g x)) (depth : Nat)
    (a b : Rat) {tolerance : Rat} (negative : tolerance < 0) :
    ∃ tree, refine f false depth a b tolerance (area a b) (g a) (g b) (g (middle a b)) =
      .ok tree ∧ tree.value = area a b := by
  induction depth generalizing a b tolerance with
  | zero =>
      rw [areas.refine_zero values, if_neg fun both => Bool.false_ne_true both.1]
      exact ⟨_, rfl, value_accepted ..⟩
  | succ depth ih =>
      have half : tolerance / 2 < 0 := by linarith
      obtain ⟨left, leftFound, leftValue⟩ := ih a (middle a b) half
      obtain ⟨right, rightFound, rightValue⟩ := ih (middle a b) b half
      rw [areas.refine_succ values, if_pos negative, leftFound, rightFound]
      refine ⟨.halved left right, rfl, ?_⟩
      rw [Refinement.value, leftValue, rightValue, areas.adjacent]

/-- For a negative tolerance no interval is accepted while it may be halved still more. -/
theorem refine_of_neg_cut (areas : Exact g area) (values : ∀ x, f x = .ok (g x)) (depth : Nat)
    (a b : Rat) {tolerance : Rat} (negative : tolerance < 0) :
    refine f true depth a b tolerance (area a b) (g a) (g b) (g (middle a b)) =
      .error (.trouble .tooDeep) := by
  induction depth generalizing a b tolerance with
  | zero => rw [areas.refine_zero values, if_pos ⟨rfl, negative⟩]
  | succ depth ih =>
      have half : tolerance / 2 < 0 := by linarith
      rw [areas.refine_succ values, if_pos negative, ih a (middle a b) half]
      rfl

/-- What can be nested decides only where the tolerance is negative. -/
theorem outcome_integrateUp (areas : Exact g area) (values : ∀ x, f x = .ok (g x))
    (a b tolerance : Rat) (depth : Int) (nesting : Option Nat) :
    (integrateUp f a b tolerance depth nesting).outcome =
      if tolerance < 0 ∧ nesting.getD depth.toNat < depth.toNat then .error (.trouble .tooDeep)
      else .ok (area a b) := by
  rw [integrateUp, Report.outcome_bind, Report.ofExcept, refinement, sample_rat.2 (values a),
    sample_rat.2 (values b), sample_rat.2 (values _)]
  simp only [bind, Except.bind, areas.panel]
  by_cases negative : tolerance < 0
  · by_cases deep : nesting.getD depth.toNat < depth.toNat
    · rw [decide_eq_true deep, areas.refine_of_neg_cut values _ a b negative,
        if_pos ⟨negative, deep⟩]
    · rw [decide_eq_false deep, if_neg fun both => deep both.2]
      obtain ⟨tree, found, value⟩ := areas.refine_of_neg values
        (min depth.toNat (nesting.getD depth.toNat)) a b negative
      rw [found, ← value]
      rfl
  · rw [areas.refine_of_nonneg values _ _ a b (not_lt.1 negative),
      if_neg fun both => negative both.1]
    exact congrArg Except.ok (value_accepted ..)

/-- The range may be given either way round, or be a single point. -/
theorem outcome_integrate (areas : Exact g area) (values : ∀ x, f x = .ok (g x))
    (a b tolerance : Rat) (depth : Int) (nesting : Option Nat) :
    (integrate f a b tolerance depth nesting).outcome =
      if a ≠ b ∧ tolerance < 0 ∧ nesting.getD depth.toNat < depth.toNat then
        .error (.trouble .tooDeep)
      else .ok (area a b) := by
  rcases lt_trichotomy a b with below | rfl | above
  · rw [integrate_eq_integrateUp below, areas.outcome_integrateUp values]
    simp [below.ne]
  · have empty : area a a = 0 := by
      have twice := areas.adjacent a a a
      linarith
    rw [if_neg fun apart => apart.1 rfl, empty, integrate]
    have bounded : (!(Scalar.isFinite a && Scalar.isFinite a)) = false := rfl
    rw [bounded, if_neg Bool.false_ne_true, if_pos (beq_self_eq_true a), ← zero_rat]
    rfl
  · have bounded : (!(Scalar.isFinite a && Scalar.isFinite b)) = false := rfl
    have apart : (a == b) = false := beq_eq_false_iff_ne.2 above.ne'
    rw [integrate, bounded, apart, if_neg Bool.false_ne_true, if_neg Bool.false_ne_true,
      if_pos above, Report.outcome_bind, areas.outcome_integrateUp values]
    by_cases deep : tolerance < 0 ∧ nesting.getD depth.toNat < depth.toNat
    · rw [if_pos deep, if_pos ⟨above.ne', deep⟩]
      rfl
    · rw [if_neg deep, if_neg fun all => deep all.2]
      exact congrArg Except.ok (areas.neg_area a b)

end Exact

/-! ## Polynomials of degree three or less -/

theorem exact_cubic {p : Polynomial Rat} (cubic : p.natDegree ≤ 3) :
    Exact (fun x => p.eval x) (integralOf p) := by
  refine ⟨fun a b => ?_, integralOf_add_integralOf p⟩
  have expanded (t : Rat) : p.eval (a + (b - a) * t) =
      ∑ d ∈ Finset.range 4, (along p a b).coeff d * t ^ d := by
    rw [← eval_along, Polynomial.eval_eq_sum_range']
    have := natDegree_along_le p a b
    omega
  have left := expanded 0
  have right := expanded 1
  have mid := expanded (1 / 2)
  rw [mul_zero, add_zero] at left
  rw [mul_one, add_sub_cancel] at right
  rw [show a + (b - a) * (1 / 2) = (a + b) / 2 by ring] at mid
  rw [estimate_rat, middle_rat, left, right, mid, integralOf_eq_sum a b (Nat.lt_succ_of_le cubic)]
  simp only [Finset.sum_range_succ, Finset.sum_range_zero]
  push_cast
  ring

/-- **Simpson's rule is exact on cubics**, once and adaptively: for a polynomial of degree three
or less, whatever the bounds, the tolerance and the number of halvings allowed, both give its
integral.  If halvings can only be nested `limit` times, nothing changes unless the tolerance is
negative and more are allowed. -/
theorem integrate_cubic {ε : Type} {f : Rat → Except ε Rat} {p : Polynomial Rat}
    (values : ∀ x, f x = .ok (p.eval x)) (cubic : p.natDegree ≤ 3) (a b tolerance : Rat)
    (depth : Int) :
    ∃ value : Rat, (value : ℝ) = (∫ x in (a : ℝ)..b, aeval x p) ∧
      simpson f a b = .ok value ∧
      (integrate f a b tolerance depth none).outcome = .ok value ∧
      ∀ limit, (integrate f a b tolerance depth (some limit)).outcome =
        if a ≠ b ∧ tolerance < 0 ∧ limit < depth.toNat then .error (.trouble .tooDeep)
        else .ok value := by
  have areas := exact_cubic cubic
  refine ⟨integralOf p a b, cast_integralOf p a b, areas.simpson_eq values a b, ?_, ?_⟩
  · rw [areas.outcome_integrate values, if_neg]
    rintro ⟨-, -, deep⟩
    exact absurd deep (lt_irrefl _)
  · intro limit
    rw [areas.outcome_integrate values]
    rfl

/-- The polynomial `x ^ 3 - 2 x + 1` from `2` down to `-1`, with a tolerance that no estimates
meet, so that every interval is halved three times. -/
theorem integrate_cubic_reversed :
    let f : Rat → Except Unit Rat := fun x => .ok (x * x * x - 2 * x + 1)
    let p : Polynomial Rat := X ^ 3 - 2 * X + 1
    (∀ x, f x = .ok (p.eval x)) ∧ p.natDegree ≤ 3 ∧
      simpson f 2 (-1) = .ok (-15 / 4) ∧
      (integrate f 2 (-1) (-1) 3 none).outcome = .ok (-15 / 4) ∧
      (integrate f 2 (-1) (-1) 3 (some 2)).outcome = .error (.trouble .tooDeep) ∧
      ((-15 / 4 : Rat) : ℝ) = ∫ x in ((2 : Rat) : ℝ)..((-1 : Rat) : ℝ), aeval x p := by
  intro f p
  have values : ∀ x, f x = .ok (p.eval x) := by
    intro x
    simp only [f, p, Polynomial.eval_add, Polynomial.eval_sub, Polynomial.eval_mul,
      Polynomial.eval_pow, Polynomial.eval_X, Polynomial.eval_one, Polynomial.eval_ofNat]
    congr 1
    ring
  have cubic : p.natDegree ≤ 3 := by
    simp only [p]
    compute_degree
  obtain ⟨value, real, once, unlimited, limited⟩ := integrate_cubic values cubic 2 (-1) (-1) 3
  have returned : simpson f 2 (-1) = .ok (-15 / 4) := by
    decide +kernel
  obtain rfl : value = -15 / 4 := Except.ok.inj (once.symm.trans returned)
  refine ⟨values, cubic, returned, unlimited, ?_, real⟩
  rw [limited 2]
  exact if_pos (by decide +kernel)

end SciCalc.Quadrature
