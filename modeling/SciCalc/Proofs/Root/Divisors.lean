/-
# SciCalc.Proofs.Root.Divisors -- root finders do not divide by zero

A run is regular if it fails only by what a method meets on its way: a point without a value, a
value that is not finite, too small a slope, or too many iterations (`Regular`).  On doubles every
method is, whatever the function, the tolerance and the number of iterations, except that the two
that take bounds may refuse them (`bisection_cases`, `brent_cases`).  So none divides by zero
(`no_zero_divisor`).

Newton's method and the secant method refuse small slopes, and zero is one.  Brent's method tests
none of its divisors, and each is kept from zero in its own way.

* The value at `c` is not zero at the first iteration, and stays so (`prepare_fc`).  An exact root
  may be passed over, as no value is below a tolerance that is not positive, and then becomes the
  estimate before: when `c` is replaced by it, `b` is worse than `c` and the two are exchanged.
* The value at `a` is the larger one where it divides.
* A fraction with denominator zero is not accepted as a step: the bound on its numerator would be
  zero or no number, and the numerator is not below zero (`stride_regular`).
-/
import SciCalc.Proofs.Number.Order
import SciCalc.Proofs.Outcome
import SciCalc.Proofs.Root.Accepted

namespace SciCalc.Root

set_option autoImplicit false

open SciCalc.Number

/-! ## Regular runs -/

section Runs

variable {α ε β γ : Type}

/-- The failures that a method can meet on its way. -/
def Failure.underway : Failure α ε → Bool
  | .sample _ | .trouble (.leftDomain ..) | .trouble (.flatDerivative _) |
    .trouble (.equalValues ..) | .trouble (.notConverged ..) => true
  | .trouble _ => false

/-- A run that fails, if at all, by what it meets on its way. -/
def Regular (run : Except (Failure α ε) β) : Prop :=
  ∀ failure, run = .error failure → failure.underway = true

theorem regular_ok (x : β) : Regular (.ok x : Except (Failure α ε) β) := by
  intro failure failed
  cases failed

theorem regular_error {failure : Failure α ε} (underway : failure.underway = true) :
    Regular (.error failure : Except (Failure α ε) β) := by
  rintro _ ⟨⟩
  exact underway

theorem Regular.bind {first : Except (Failure α ε) β} {next : β → Except (Failure α ε) γ}
    (regular : Regular first) (regularNext : ∀ x, Regular (next x)) : Regular (first >>= next) := by
  intro failure failed
  obtain failed | ⟨x, -, failed⟩ := bind_eq_error.1 failed
  · exact regular failure failed
  · exact regularNext x failure failed

theorem Regular.ne_zeroDivisor {run : Except (Failure α ε) β} (regular : Regular run) :
    run ≠ .error (.trouble .zeroDivisor) := by
  intro failed
  cases regular _ failed

theorem regular_sample (f : α → Except ε α) (x : α) :
    Regular (sample f x : Except (Failure α ε) α) := by
  rw [sample]
  cases f x with
  | ok y => exact regular_ok y
  | error cause => exact regular_error rfl

theorem regular_divide [Scalar α] {y : α} (nonzero : (y == 0.0) = false) (x : α) :
    Regular (divide x y : Except (Failure α ε) α) := by
  rw [divide, nonzero]
  exact regular_ok _

end Runs

variable {ε : Type} {f : Float → Except ε Float} {tolerance : Float} {limit : Int}

/-! ## Bisection -/

theorem bisect_regular (left done : Nat) (k : Bracket Float) :
    Regular (bisect f tolerance limit left done k) := by
  induction left generalizing done k with
  | zero => exact regular_ok _
  | succ left ih =>
      rw [bisect]
      refine (regular_sample f _).bind fun fm => ?_
      split
      · exact regular_ok _
      split
      · exact regular_ok _
      exact ih _ _

/-- Bisection refuses bounds that do not enclose a root, and is regular otherwise. -/
theorem bisection_cases (a b : Float) :
    Regular (bisection f a b tolerance limit) ∨
      ∃ fa fb, bisection f a b tolerance limit = .error (.trouble (.noSignChange a fa b fb)) := by
  rw [bisection]
  cases left : sample f a with
  | error failure => exact .inl (regular_error (regular_sample f a failure left))
  | ok fa =>
      cases right : sample f b with
      | error failure => exact .inl (regular_error (regular_sample f b failure right))
      | ok fb =>
          simp only [bind, Except.bind]
          split
          · exact .inr ⟨fa, fb, rfl⟩
          left
          split
          · exact regular_ok _
          split
          · exact regular_ok _
          exact bisect_regular _ _ _

/-! ## Newton's method and the secant method -/

/-- A slope that is not refused is not zero. -/
theorem ne_zero_of_not_flat {slope : Float} (steep : ¬ slope.abs < minSlope) :
    (slope == 0.0) = false :=
  Bool.eq_false_iff.2 fun zero => steep (abs_lt_of_eq_zero zero (by decide +kernel))

theorem centralDifference_regular {step : Float} (wide : (2.0 * step == 0.0) = false)
    (x : Float) : Regular (centralDifference f step x) :=
  (regular_sample f _).bind fun _ => (regular_sample f _).bind fun _ => regular_divide wide _

theorem newtonSteps_regular {slope : Float → Except (Failure Float ε) Float}
    (slopes : ∀ x, Regular (slope x)) (left done : Nat) (x : Float) :
    Regular (newtonSteps f slope tolerance limit left done x) := by
  induction left generalizing done x with
  | zero => exact regular_error rfl
  | succ left ih =>
      rw [newtonSteps]
      refine (regular_sample f x).bind fun fx => ?_
      dsimp only
      split
      · exact regular_error rfl
      split
      · exact regular_ok _
      refine (slopes x).bind fun dfx => ?_
      split
      · exact regular_error rfl
      rename_i steep
      refine (regular_divide (ne_zero_of_not_flat steep) fx).bind fun quotient => ?_
      split
      · exact regular_ok _
      exact ih _ _

theorem secantSteps_regular (left done : Nat) (x₀ f₀ x₁ : Float) :
    Regular (secantSteps f tolerance limit left done x₀ f₀ x₁) := by
  induction left generalizing done x₀ f₀ x₁ with
  | zero => exact regular_error rfl
  | succ left ih =>
      rw [secantSteps]
      refine (regular_sample f x₁).bind fun f₁ => ?_
      dsimp only
      split
      · exact regular_ok _
      split
      · exact regular_error rfl
      rename_i steep
      refine (regular_divide (ne_zero_of_not_flat steep) _).bind fun quotient => ?_
      split
      · exact regular_ok _
      exact ih _ _ _ _

/-! ## Brent's method -/

/-- What is larger in size than something is not zero. -/
theorem ne_zero_of_abs_lt {x y : Float} (larger : x.abs < y.abs) : (y == 0.0) = false := by
  refine Bool.eq_false_iff.2 fun zero => ?_
  have size := (lt_iff_rank.1 larger).2.2
  rw [rank_abs, rank_abs, (eq_zero_iff_rank.1 zero).2] at size
  omega

/-- What is on a side of zero is larger in size than a zero. -/
theorem abs_lt_of_sided {x y : Float} (zero : (x == 0.0) = true) (sided : 0.0 < y ∨ y < 0.0) :
    x.abs < y.abs := by
  obtain ⟨number, place⟩ := eq_zero_iff_rank.1 zero
  have origin : rank 0.0 = 0 := rfl
  rw [lt_iff_rank, lt_iff_rank, origin] at sided
  rw [lt_iff_rank, isNaN_abs, isNaN_abs, rank_abs, rank_abs, place]
  obtain ⟨-, numberOther, above⟩ | ⟨numberOther, -, below⟩ := sided
  · exact ⟨number, numberOther, by omega⟩
  · exact ⟨number, numberOther, by omega⟩

namespace Brent

variable {s t : Brent Float}

/-- The value at `c` is not zero. -/
def Anchored (s : Brent Float) : Prop := (s.fc == 0.0) = false

/-- Rebracketing and orientation keep a zero away from `c`. -/
theorem Anchored.prepare (anchored : Anchored s) : Anchored s.prepare := by
  rw [Brent.prepare, orient]
  split
  · rename_i worse
    exact ne_zero_of_abs_lt worse
  · rename_i better
    rw [Brent.rebracket] at better ⊢
    split
    · -- The value at `a` takes the place: were it zero, the one at `b` would be larger.
      rename_i oneSided
      rw [if_pos oneSided] at better
      have sided : 0.0 < s.fb ∨ s.fb < 0.0 := (oneSided_iff.1 oneSided).imp And.left And.left
      exact Bool.eq_false_iff.2 fun zero => better (abs_lt_of_sided zero sided)
    · exact anchored

theorem interpolate_regular (fa : (s.fa == 0.0) = false) (anchored : Anchored s) :
    Regular (s.interpolate : Except (Failure Float ε) (Float × Float)) := by
  rw [interpolate]
  refine (regular_divide fa _).bind fun t => ?_
  split
  · exact regular_ok _
  · exact (regular_divide anchored _).bind fun q => (regular_divide anchored _).bind fun r =>
      regular_ok _

/-- The numerator is not negative after its sign is moved below. -/
theorem rank_settleSign (p q : Float) : 0 ≤ rank (settleSign p q).1 := by
  have origin : rank 0.0 = 0 := rfl
  have unfolded : settleSign p q = if 0.0 < p then (p, -q) else (-p, q) := rfl
  rw [unfolded]
  split
  · rename_i positive
    have place := (lt_iff_rank.1 positive).2.2
    exact Int.le_of_lt (origin ▸ place)
  · rename_i notPositive
    rw [rank_neg]
    cases number : p.isNaN with
    | true =>
        rw [rank_of_isNaN number]
        decide
    | false =>
        rw [lt_iff_rank, origin] at notPositive
        have place : rank p ≤ 0 := Int.not_lt.1 fun above => notPositive ⟨rfl, number, above⟩
        omega

/-- A fraction whose denominator is zero does not pass the test of an interpolated step: no
number that is not negative is below the bound. -/
theorem ne_zero_of_accepted {p q half resolution e : Float} (numerator : 0 ≤ rank p)
    (accepted : 2.0 * p < lesser (3.0 * half * q - (resolution * q).abs) (e * q).abs) :
    (q == 0.0) = false := by
  refine Bool.eq_false_iff.2 fun zero => ?_
  have place := (eq_zero_iff_rank.1 zero).2
  have product (x : Float) : rank (x * q).abs = 0 := by
    rw [rank_abs, rank_mul_eq_zero place]
    rfl
  have bound : rank (lesser (3.0 * half * q - (resolution * q).abs) (e * q).abs) = 0 := by
    rw [lesser]
    split
    · exact product e
    · exact rank_sub_eq_zero (rank_mul_eq_zero place) (product resolution)
  have above : 0 ≤ rank (2.0 * p) := rank_mul_nonneg (by decide +kernel) numerator
  have below := (lt_iff_rank.1 accepted).2.2
  omega

theorem stride_regular (anchored : Anchored s) (resolution : Float) :
    Regular (s.stride resolution : Except (Failure Float ε) (Float × Float)) := by
  rw [stride]
  split
  · rename_i trusted
    refine (interpolate_regular (ne_zero_of_abs_lt trusted.2) anchored).bind fun fraction => ?_
    obtain ⟨p, q⟩ := fraction
    have numerator := rank_settleSign p q
    dsimp only
    generalize settleSign p q = settled at numerator ⊢
    obtain ⟨p, q⟩ := settled
    dsimp only
    split
    · rename_i accepted
      exact (regular_divide (ne_zero_of_accepted numerator accepted) p).bind fun d => regular_ok _
    · exact regular_ok _
  · exact regular_ok _

/-- One iteration: it is regular, and the next one has what it needs. -/
theorem round_regular (anchored : Anchored s) (done : Nat) : Regular (round f tolerance done s) := by
  rw [round]
  dsimp only
  split
  · exact regular_ok _
  split
  · exact regular_ok _
  exact (stride_regular anchored.prepare _).bind fun step => (regular_sample f _).bind fun value =>
    regular_ok _

theorem round_anchored (anchored : Anchored s) {done : Nat}
    (continued : round f tolerance done s = .ok (.inr t)) : Anchored t := by
  rcases round_cases_of_ok continued with ended | ended | ⟨d, e, next, value, -, same⟩
  · cases ended
  · cases ended
  · cases same
    exact anchored.prepare

theorem iterate_regular (anchored : Anchored s) (left done : Nat) :
    Regular (iterate f tolerance limit left done s) := by
  induction left generalizing done s with
  | zero => exact regular_error rfl
  | succ left ih =>
      rw [iterate]
      intro failure failed
      obtain failed | ⟨result, rounded, failed⟩ := bind_eq_error.1 failed
      · exact round_regular anchored done failure failed
      · cases result with
        | inl ending => cases failed
        | inr next => exact ih (round_anchored anchored rounded) _ failure failed

end Brent

/-- Brent's method refuses bounds that do not enclose a root, and is regular otherwise. -/
theorem brent_cases (a b : Float) :
    Regular (brent f a b tolerance limit) ∨
      ∃ fa fb, f a = .ok fa ∧ f b = .ok fb ∧ encloses fa fb = false ∧
        brent f a b tolerance limit = .error (.trouble (.noSignChange a fa b fb)) := by
  rw [brent]
  cases left : sample f a with
  | error failure => exact .inl (regular_error (regular_sample f a failure left))
  | ok fa =>
      cases right : sample f b with
      | error failure => exact .inl (regular_error (regular_sample f b failure right))
      | ok fb =>
          simp only [bind, Except.bind]
          split
          · rename_i refused
            exact .inr ⟨fa, fb, sample_eq_ok.1 left, sample_eq_ok.1 right, by simpa using refused, rfl⟩
          left
          split
          · exact regular_ok _
          rename_i nonzero
          have anchored : Brent.Anchored (.start a fa b fb) := Bool.eq_false_iff.2 nonzero
          exact Brent.iterate_regular anchored limit.toNat 0

theorem brent_regular {a b fa fb : Float} (left : f a = .ok fa) (right : f b = .ok fb)
    (enclosed : encloses fa fb = true) : Regular (brent f a b tolerance limit) := by
  obtain regular | ⟨ga, gb, leftToo, rightToo, refused, -⟩ := brent_cases a b
  · exact regular
  · cases left.symm.trans leftToo
    cases right.symm.trans rightToo
    cases enclosed.symm.trans refused

/-- **Root finders do not divide by zero**, whatever the function, the points to begin with, the
tolerance and the number of iterations.  Newton's method may take any derivative, or the central
difference of a step whose double is not zero; where a method divides otherwise it halves. -/
theorem no_zero_divisor {ε : Type} (f : Float → Except ε Float) (a b tolerance : Float)
    (limit : Int) :
    bisection f a b tolerance limit ≠ .error (.trouble .zeroDivisor) ∧
    secant f a b tolerance limit ≠ .error (.trouble .zeroDivisor) ∧
    brent f a b tolerance limit ≠ .error (.trouble .zeroDivisor) ∧
    (∀ derivative : Float → Except ε Float,
      newton f (sample derivative) a tolerance limit ≠ .error (.trouble .zeroDivisor)) ∧
    (∀ step : Float, (2.0 * step == 0.0) = false →
      newton f (centralDifference f step) a tolerance limit ≠ .error (.trouble .zeroDivisor)) ∧
    ((2.0 : Float) == 0.0) = false := by
  have secantRegular : Regular (secant f a b tolerance limit) :=
    (regular_sample f a).bind fun f₀ => secantSteps_regular _ _ _ _ _
  refine ⟨?_, secantRegular.ne_zeroDivisor, ?_, fun derivative => ?_, fun step wide => ?_,
    by decide +kernel⟩
  · obtain regular | ⟨fa, fb, refused⟩ := bisection_cases a b
    · exact regular.ne_zeroDivisor
    · rw [refused]
      intro same
      cases same
  · obtain regular | ⟨fa, fb, -, -, -, refused⟩ := brent_cases a b
    · exact regular.ne_zeroDivisor
    · rw [refused]
      intro same
      cases same
  · exact (newtonSteps_regular (regular_sample derivative) _ _ _).ne_zeroDivisor
  · exact (newtonSteps_regular (centralDifference_regular wide) _ _ _).ne_zeroDivisor

/-- The step that is taken by default will do.  With no tolerance at all Brent's method goes on
behind the exact root of the identity, where its first step leads. -/
theorem no_zero_divisor_identity :
    let identity (x : Float) : Except Unit Float := .ok x
    (2.0 * (differenceStep : Float) == 0.0) = false ∧
      newton identity (centralDifference identity differenceStep) (-1.0) 0.0 5 ≠
        .error (.trouble .zeroDivisor) ∧
      brent identity (-1.0) 3.0 0.0 5 = .error (.trouble (.notConverged .brent 5)) := by
  intro identity
  have wide : (2.0 * (differenceStep : Float) == 0.0) = false := by decide +kernel
  have divides := no_zero_divisor identity (-1.0) 3.0 0.0 5
  exact ⟨wide, divides.2.2.2.2.1 _ wide, by decide +kernel⟩

end SciCalc.Root
