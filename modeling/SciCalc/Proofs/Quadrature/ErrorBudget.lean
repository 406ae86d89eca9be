/-
# SciCalc.Proofs.Quadrature.ErrorBudget -- the adaptive rule keeps its error budget

Over the rationals the intervals that adaptive integration accepts lie side by side from
one bound to the other (`Tiles`).  Each is the range halved so many times (`Halved`), and
every halving halves the width and the tolerance alike, so that the tolerance is shared
out in proportion to the widths.  The two estimates of an accepted interval are those of
Simpson's rule on that very interval and on its halves (`Panel.Estimated`), although the
values behind them were taken when wider intervals were looked at.

What an interval contributes differs from its refined estimate by a fifteenth of what the
two estimates differ by.  Where all of them agree well enough for their tolerances, the
contributions together are as far from the refined estimates as the whole tolerance at
most (`integrate_keeps_budget`).

The induction is on the halvings that are still allowed, with the samples that an interval
is given assumed to be its own (`account_refine`).
-/
import Mathlib.Algebra.BigOperators.Group.List.Basic
import Mathlib.Algebra.Order.Field.Basic
import Mathlib.Tactic.FieldSimp
import Mathlib.Tactic.Linarith
import Mathlib.Tactic.Ring
import SciCalc.Proofs.Number.Rational
import SciCalc.Proofs.Quadrature.CarriedSamples

namespace SciCalc.Quadrature

set_option autoImplicit false

open SciCalc.Number

/-! ## The rules over the rationals -/

theorem two_rat : (2.0 : Rat) = 2 := by norm_num

theorem middle_rat (a b : Rat) : middle a b = (a + b) / 2 := by
  show (a + b) / (2.0 : Rat) = _
  rw [two_rat]

theorem estimate_rat (a b fa fb fm : Rat) :
    estimate a b fa fb fm = (b - a) / 6 * (fa + 4 * fm + fb) := by
  show (b - a) / (6.0 : Rat) * (fa + (4.0 : Rat) * fm + fb) = _
  norm_num

theorem agree_rat (whole refined tolerance : Rat) :
    agree whole refined tolerance = decide (|refined - whole| ≤ 15 * tolerance) := by
  rw [← abs_rat]
  show decide (Scalar.abs (refined - whole) ≤ (15.0 : Rat) * tolerance) = _
  norm_num

theorem Panel.value_rat (p : Panel Rat) : p.value = p.refined + (p.refined - p.whole) / 15 := by
  show p.refined + (p.refined - p.whole) / (15.0 : Rat) = _
  norm_num

/-- A twelfth of the width is a sixth of half of it. -/
theorem halfEstimate_rat (a b x y z : Rat) :
    (b - a) / (12.0 : Rat) * (x + (4.0 : Rat) * y + z) =
      (b - a) / 2 / 6 * (x + 4 * y + z) := by
  have twelve : (12.0 : Rat) = 2 * 6 := by norm_num
  have four : (4.0 : Rat) = 4 := by norm_num
  rw [twelve, four, div_mul_eq_div_div]

section Rational

variable {ε : Type} {f : Rat → Except ε Rat} {a b fa fb fm tolerance whole : Rat}

/-- All rationals are finite: sampling fails only where the function does. -/
theorem sample_rat {x y : Rat} : sample f x = .ok y ↔ f x = .ok y := by
  rw [sample]
  cases f x with
  | error cause => simp
  | ok z =>
    show (Except.ok z : Except (Failure Rat ε) Rat) = Except.ok y ↔ _
    rw [Except.ok.injEq, Except.ok.injEq]

/-- The estimates on the halves, from the width of the whole, are Simpson's. -/
theorem halves_rat {h : Halves Rat} (found : halves f a b fa fb fm = .ok h) :
    h.left = estimate a (middle a b) fa fm h.fl ∧
      h.right = estimate (middle a b) b fm fb h.fr := by
  rw [halves] at found
  obtain ⟨fl, -, found⟩ := bind_eq_ok.1 found
  obtain ⟨fr, -, found⟩ := bind_eq_ok.1 found
  cases found
  constructor
  · show (b - a) / (12.0 : Rat) * (fa + (4.0 : Rat) * fl + fm) = _
    rw [halfEstimate_rat, estimate_rat, middle_rat]
    ring
  · show (b - a) / (12.0 : Rat) * (fm + (4.0 : Rat) * fr + fb) = _
    rw [halfEstimate_rat, estimate_rat, middle_rat]
    ring

/-! ## Intervals -/

/-- Intervals side by side from one point to another, each from left to right. -/
inductive Tiles : Rat → List (Panel Rat) → Rat → Prop
  | nil {a : Rat} : Tiles a [] a
  | cons {p : Panel Rat} {ps : List (Panel Rat)} {b : Rat} (proper : p.a < p.b)
      (rest : Tiles p.b ps b) : Tiles p.a (p :: ps) b

theorem Tiles.append {c : Rat} {ps qs : List (Panel Rat)} (left : Tiles a ps c)
    (right : Tiles c qs b) : Tiles a (ps ++ qs) b := by
  induction left with
  | nil => exact right
  | cons proper _ ih => exact .cons proper (ih right)

/-- The interval from `c` to `d` is the one from `a` to `b` halved so many times. -/
inductive Halved (a b : Rat) : Nat → Rat → Rat → Prop
  | whole : Halved a b 0 a b
  | left {k : Nat} {c d : Rat} (before : Halved a b k c d) : Halved a b (k + 1) c (middle c d)
  | right {k : Nat} {c d : Rat} (before : Halved a b k c d) : Halved a b (k + 1) (middle c d) d

theorem Halved.of_left {k : Nat} {c d : Rat} (halved : Halved a (middle a b) k c d) :
    Halved a b (k + 1) c d := by
  induction halved with
  | whole => exact .left .whole
  | left _ ih => exact .left ih
  | right _ ih => exact .right ih

theorem Halved.of_right {k : Nat} {c d : Rat} (halved : Halved (middle a b) b k c d) :
    Halved a b (k + 1) c d := by
  induction halved with
  | whole => exact .right .whole
  | left _ ih => exact .left ih
  | right _ ih => exact .right ih

theorem Halved.width {k : Nat} {c d : Rat} (halved : Halved a b k c d) :
    d - c = (b - a) / 2 ^ k := by
  induction halved with
  | whole => rw [pow_zero, div_one]
  | left _ ih | right _ ih =>
      rw [pow_succ, ← div_div, ← ih, middle_rat]
      ring

/-- Whether the estimates of an interval agree well enough for its tolerance. -/
def Panel.Agrees (p : Panel Rat) : Prop := |p.refined - p.whole| ≤ 15 * p.tolerance

/-- The estimates of an interval are Simpson's, on it and on its two halves. -/
structure Panel.Estimated (f : Rat → Except ε Rat) (p : Panel Rat) : Prop where
  whole : simpson f p.a p.b = .ok p.whole
  refined : ∃ left right, simpson f p.a (middle p.a p.b) = .ok left ∧
    simpson f (middle p.a p.b) p.b = .ok right ∧ p.refined = left + right

theorem simpson_eq_ok (left : sample f a = .ok fa) (right : sample f b = .ok fb)
    (mid : sample f (middle a b) = .ok fm) : simpson f a b = .ok (estimate a b fa fb fm) := by
  rw [simpson, left, right, mid]
  rfl

/-! ## The halving -/

/-- What is known of the intervals accepted in a range, with a tolerance, a number of halvings
allowed, and perhaps some not allowed that would have been needed (`cut`). -/
structure Account (f : Rat → Except ε Rat) (a b tolerance : Rat) (depth : Nat) (cut : Bool)
    (panels : List (Panel Rat)) : Prop where
  tiles : Tiles a panels b
  budget : (panels.map Panel.tolerance).sum = tolerance
  each : ∀ p ∈ panels, p.Estimated f ∧ ∃ k ≤ depth, Halved a b k p.a p.b ∧
    p.tolerance = tolerance / 2 ^ k ∧ (p.Agrees ∨ k = depth ∧ cut = false)

/-- An interval that is accepted as it is. -/
theorem account_accepted {depth : Nat} {cut : Bool} {h : Halves Rat} (below : a < b)
    (left : sample f a = .ok fa) (right : sample f b = .ok fb)
    (mid : sample f (middle a b) = .ok fm) (found : halves f a b fa fb fm = .ok h)
    (stops : agree (estimate a b fa fb fm) h.sum tolerance = true ∨ depth = 0 ∧ cut = false) :
    Account f a b tolerance depth cut
      (Refinement.accepted ⟨a, b, tolerance, estimate a b fa fb fm, h.sum⟩).panels := by
  obtain ⟨quarter, threeQuarters⟩ := sample_of_halves found
  obtain ⟨leftHalf, rightHalf⟩ := halves_rat found
  have tiles : Tiles a [⟨a, b, tolerance, estimate a b fa fb fm, h.sum⟩] b :=
    .cons (p := ⟨a, b, tolerance, estimate a b fa fb fm, h.sum⟩) below .nil
  refine ⟨tiles, by simp [Refinement.panels], ?_⟩
  intro p only
  rw [Refinement.panels, List.mem_singleton] at only
  subst only
  refine ⟨⟨simpson_eq_ok left right mid, h.left, h.right, ?_, ?_, rfl⟩, 0, Nat.zero_le _, .whole,
    by simp, ?_⟩
  · rw [leftHalf]
    exact simpson_eq_ok left mid quarter
  · rw [rightHalf]
    exact simpson_eq_ok mid right threeQuarters
  · rcases stops with agreed | ⟨rfl, whole⟩
    · rw [agree_rat, decide_eq_true_iff] at agreed
      exact .inl agreed
    · exact .inr ⟨rfl, whole⟩

/-- Two halves make a whole, of twice the width and twice the tolerance. -/
theorem Account.halved {depth : Nat} {cut : Bool} {ps qs : List (Panel Rat)}
    (left : Account f a (middle a b) (tolerance / 2) depth cut ps)
    (right : Account f (middle a b) b (tolerance / 2) depth cut qs) :
    Account f a b tolerance (depth + 1) cut (ps ++ qs) := by
  have share (k : Nat) : tolerance / 2 / 2 ^ k = tolerance / 2 ^ (k + 1) := by
    rw [pow_succ', div_div]
  refine ⟨left.tiles.append right.tiles, ?_, ?_⟩
  · rw [List.map_append, List.sum_append, left.budget, right.budget, add_halves]
  · intro p inside
    rcases List.mem_append.1 inside with first | second
    · obtain ⟨estimated, k, few, halved, own, stops⟩ := left.each p first
      refine ⟨estimated, k + 1, Nat.succ_le_succ few, halved.of_left, own.trans (share k), ?_⟩
      exact stops.imp_right fun ⟨all, whole⟩ => ⟨congrArg _ all, whole⟩
    · obtain ⟨estimated, k, few, halved, own, stops⟩ := right.each p second
      refine ⟨estimated, k + 1, Nat.succ_le_succ few, halved.of_right, own.trans (share k), ?_⟩
      exact stops.imp_right fun ⟨all, whole⟩ => ⟨congrArg _ all, whole⟩

theorem middle_between (below : a < b) : a < middle a b ∧ middle a b < b := by
  rw [middle_rat]
  constructor <;> linarith

theorem account_refine {depth : Nat} {cut : Bool} {tree : Refinement Rat} (below : a < b)
    (left : sample f a = .ok fa) (right : sample f b = .ok fb)
    (mid : sample f (middle a b) = .ok fm) (same : whole = estimate a b fa fb fm)
    (found : refine f cut depth a b tolerance whole fa fb fm = .ok tree) :
    Account f a b tolerance depth cut tree.panels := by
  induction depth generalizing a b fa fb fm tolerance whole tree with
  | zero =>
      subst same
      rw [refine] at found
      obtain ⟨h, sampled, found⟩ := bind_eq_ok.1 found
      cases agreed : agree (estimate a b fa fb fm) h.sum tolerance with
      | true =>
          simp only [agreed, Bool.not_true, Bool.and_false] at found
          cases found
          exact account_accepted below left right mid sampled (.inl agreed)
      | false =>
          cases cut with
          | true =>
              simp only [agreed] at found
              cases found
          | false =>
              simp only [Bool.false_and] at found
              cases found
              exact account_accepted below left right mid sampled (.inr ⟨rfl, rfl⟩)
  | succ depth ih =>
      rw [refine] at found
      obtain ⟨h, sampled, found⟩ := bind_eq_ok.1 found
      split at found
      · rename_i agreed
        subst same
        cases found
        exact account_accepted below left right mid sampled (.inl agreed)
      · obtain ⟨leftTree, leftFound, found⟩ := bind_eq_ok.1 found
        obtain ⟨rightTree, rightFound, found⟩ := bind_eq_ok.1 found
        cases found
        rw [two_rat] at leftFound rightFound
        obtain ⟨quarter, threeQuarters⟩ := sample_of_halves sampled
        obtain ⟨leftHalf, rightHalf⟩ := halves_rat sampled
        obtain ⟨leftBelow, rightBelow⟩ := middle_between below
        exact (ih leftBelow left mid quarter leftHalf leftFound).halved
          (ih rightBelow mid right threeQuarters rightHalf rightFound)

/-! ## The whole range -/

theorem value_eq_sum (tree : Refinement Rat) :
    tree.value = (tree.panels.map fun p => p.refined + (p.refined - p.whole) / 15).sum := by
  induction tree with
  | accepted p => simp [Refinement.value, Refinement.panels, Panel.value_rat]
  | halved left right leftSum rightSum =>
      rw [Refinement.value, Refinement.panels, List.map_append, List.sum_append, leftSum, rightSum]

/-- What intervals contribute is as far from their refined estimates as their tolerances allow. -/
theorem abs_sum_sub_sum_le {ps : List (Panel Rat)} (agree : ∀ p ∈ ps, p.Agrees) :
    |(ps.map fun p => p.refined + (p.refined - p.whole) / 15).sum -
        (ps.map Panel.refined).sum| ≤ (ps.map Panel.tolerance).sum := by
  induction ps with
  | nil => simp
  | cons p ps ih =>
      have rest := ih fun q inside => agree q (List.mem_cons_of_mem p inside)
      have own : |p.refined - p.whole| ≤ 15 * p.tolerance := agree p List.mem_cons_self
      simp only [List.map_cons, List.sum_cons]
      rw [abs_le] at rest own ⊢
      constructor <;> linarith [rest.1, rest.2, own.1, own.2]

/-- From the lower to the upper bound the rule is used as it is. -/
theorem integrate_eq_integrateUp (below : a < b) (depth : Int) (nesting : Option Nat) :
    integrate f a b tolerance depth nesting = integrateUp f a b tolerance depth nesting := by
  have bounded : (!(Scalar.isFinite a && Scalar.isFinite b)) = false := rfl
  have apart : (a == b) = false := beq_eq_false_iff_ne.2 below.ne
  rw [integrate, bounded, apart, if_neg Bool.false_ne_true, if_neg Bool.false_ne_true,
    if_neg below.not_gt]

/-- A limit on nested halvings does not show in what is accepted: a range that meets it has no
integral. -/
theorem account_refinement {depth : Int} {nesting : Option Nat} {tree : Refinement Rat}
    (below : a < b) (found : refinement f a b tolerance depth nesting = .ok tree) :
    Account f a b tolerance depth.toNat false tree.panels := by
  rw [refinement] at found
  obtain ⟨fa, left, found⟩ := bind_eq_ok.1 found
  obtain ⟨fb, right, found⟩ := bind_eq_ok.1 found
  obtain ⟨fm, mid, found⟩ := bind_eq_ok.1 found
  obtain ⟨tiles, budget, each⟩ := account_refine below left right mid rfl found
  refine ⟨tiles, budget, fun p inside => ?_⟩
  obtain ⟨estimated, k, few, halved, own, stops⟩ := each p inside
  refine ⟨estimated, k, few.trans (Nat.min_le_left _ _), halved, own, ?_⟩
  rcases stops with agrees | ⟨all, whole⟩
  · exact .inl agrees
  · refine .inr ⟨?_, rfl⟩
    rw [all]
    exact Nat.min_eq_left (not_lt.1 (of_decide_eq_false whole))

/-- **Adaptive integration keeps its error budget.**  The accepted intervals tile the range;
each is the range halved no more often than allowed, with a share of the tolerance in
proportion to its width, so that the shares add up to the tolerance; and the result is the sum
of what Simpson's rule gives on each of them and on its halves.  An interval whose estimates
do not agree has been halved as often as allowed.  Where all agree, the result is as far from
the refined estimates as the tolerance at most. -/
theorem integrate_keeps_budget {depth : Int} {nesting : Option Nat} {value : Rat} (below : a < b)
    (returned : (integrate f a b tolerance depth nesting).outcome = .ok value) :
    ∃ tree, refinement f a b tolerance depth nesting = .ok tree ∧
      Tiles a tree.panels b ∧
      (∀ p ∈ tree.panels, ∃ k ≤ depth.toNat, Halved a b k p.a p.b ∧
        (p.Agrees ∨ k = depth.toNat)) ∧
      (∀ p ∈ tree.panels, p.tolerance = tolerance * (p.b - p.a) / (b - a)) ∧
      (tree.panels.map Panel.tolerance).sum = tolerance ∧
      (∀ p ∈ tree.panels, p.Estimated f) ∧
      value = (tree.panels.map fun p => p.refined + (p.refined - p.whole) / 15).sum ∧
      ((∀ p ∈ tree.panels, p.Agrees) →
        |value - (tree.panels.map Panel.refined).sum| ≤ tolerance) := by
  rw [integrate_eq_integrateUp below, integrateUp, Report.outcome_bind] at returned
  obtain ⟨tree, found, valued⟩ := bind_eq_ok.1 returned
  have found : refinement f a b tolerance depth nesting = .ok tree := found
  have valued : value = tree.value := (Except.ok.inj valued).symm
  obtain ⟨tiles, budget, each⟩ := account_refinement below found
  rw [value_eq_sum] at valued
  refine ⟨tree, found, tiles, ?_, ?_, budget, fun p inside => (each p inside).1, valued, ?_⟩
  · intro p inside
    obtain ⟨-, k, few, halved, -, stops⟩ := each p inside
    exact ⟨k, few, halved, stops.imp_right And.left⟩
  · intro p inside
    obtain ⟨-, k, -, halved, own, -⟩ := each p inside
    have width : b - a ≠ 0 := (sub_pos.2 below).ne'
    rw [own, halved.width]
    field_simp
  · intro agree
    rw [valued, ← budget]
    exact abs_sum_sub_sum_le agree

/-- The sixth power from `0` to `1`: the left half is accepted, the right half is halved once
more, and all estimates agree. -/
theorem integrate_keeps_budget_power :
    let f : Rat → Except Unit Rat := fun x => .ok (x * x * x * x * x * x)
    (0 : Rat) < 1 ∧
      (integrate f 0 1 (1 / 10000) 20 none).outcome = .ok (449399 / 3145728) ∧
      ∃ tree, refinement f 0 1 (1 / 10000) 20 none = .ok tree ∧
        tree.panels.map (fun p => (p.a, p.b, p.tolerance)) =
          [(0, 1 / 2, 1 / 20000), (1 / 2, 3 / 4, 1 / 40000), (3 / 4, 1, 1 / 40000)] ∧
        Tiles 0 tree.panels 1 ∧
        |449399 / 3145728 - (tree.panels.map Panel.refined).sum| ≤ 1 / 10000 := by
  intro f
  have below : (0 : Rat) < 1 := by norm_num
  have returned : (integrate f 0 1 (1 / 10000) 20 none).outcome = .ok (449399 / 3145728) := by
    decide +kernel
  obtain ⟨tree, found, tiles, -, -, -, -, -, close⟩ := integrate_keeps_budget below returned
  have shape : (refinement f 0 1 (1 / 10000) 20 none).map (fun tree =>
      (tree.panels.map (fun p => (p.a, p.b, p.tolerance)),
        tree.panels.all fun p => agree p.whole p.refined p.tolerance)) =
      .ok ([(0, 1 / 2, 1 / 20000), (1 / 2, 3 / 4, 1 / 40000), (3 / 4, 1, 1 / 40000)], true) := by
    decide +kernel
  rw [found] at shape
  obtain ⟨intervals, agreeing⟩ := Prod.mk.injEq .. ▸ Except.ok.inj shape
  refine ⟨below, returned, tree, found, intervals, tiles, close fun p inside => ?_⟩
  have agreed := List.all_eq_true.1 agreeing p inside
  rwa [agree_rat, decide_eq_true_iff] at agreed

end Rational

end SciCalc.Quadrature
