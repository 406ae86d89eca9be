/-
# SciCalc.Proofs.Quadrature.SampleCause -- integration rules pass on the causes of failed samples

What holds of the root finders holds of the integration rules: when the function's failures
are told in another way, every rule ends as before with the failure told that way, whichever
sample it was, and a trouble of the rule's own is not told otherwise.  The cause that a rule
ends with is one that the function has at some point (`cause_of_integrate` and the like).

One lemma for each function that samples.  Nothing here depends on the numbers.
-/
import SciCalc.Proofs.Outcome
import SciCalc.Quadrature.Simpson
import SciCalc.Quadrature.Singular
import SciCalc.Quadrature.Trapezoid

namespace SciCalc.Quadrature

set_option autoImplicit false

open SciCalc.Number

section Failures

variable {α ε ε' : Type}

/-- The same failure, the cause of a failed sample told in another way. -/
def Failure.retell (tell : ε → ε') : Failure α ε → Failure α ε'
  | sample cause => .sample (tell cause)
  | trouble cause => .trouble cause

theorem passedOver_retell (tell : ε → ε') (passes : ε' → Bool) (failure : Failure α ε) :
    (failure.retell tell).passedOver passes = failure.passedOver (passes ∘ tell) := by
  cases failure <;> rfl

end Failures

variable {α ε ε' : Type} [Scalar α] (tell : ε → ε') (f : α → Except ε α)

/-- A value that is not finite is a trouble of the rule's own. -/
theorem sample_retold (x : α) :
    sample (retold tell f) x = (sample f x).mapError (Failure.retell tell) := by
  rw [sample, sample, retold]
  cases f x with
  | error cause => rfl
  | ok y =>
      show (if Scalar.isFinite y = true then _ else _) = Except.mapError _ (if _ then _ else _)
      split <;> rfl

theorem widthOf_retold (a b : α) (count : Int) :
    (widthOf a b count : Except (Failure α ε') α) =
      (widthOf a b count : Except (Failure α ε) α).mapError (Failure.retell tell) := by
  rw [widthOf, widthOf]
  cases partWidth a b count <;> rfl

theorem sumOver_retold (points : List α) :
    sumOver (retold tell f) points = (sumOver f points).mapError (Failure.retell tell) := by
  simp only [sumOver, sample_retold, mapError_bind, mapError_foldlM]
  congr 2
  funext parts x
  congr 1
  funext y
  cases Scalar.accumulate parts y <;> rfl

/-! ## Simpson's rule -/

theorem halves_retold (a b fa fb fm : α) :
    halves (retold tell f) a b fa fb fm =
      (halves f a b fa fb fm).mapError (Failure.retell tell) := by
  simp only [halves, sample_retold, mapError_bind]
  rfl

theorem refine_retold (cut : Bool) (depth : Nat) (a b tolerance whole fa fb fm : α) :
    refine (retold tell f) cut depth a b tolerance whole fa fb fm =
      (refine f cut depth a b tolerance whole fa fb fm).mapError (Failure.retell tell) := by
  induction depth generalizing a b tolerance whole fa fb fm with
  | zero =>
      simp only [refine, halves_retold, mapError_bind, mapError_ite]
      rfl
  | succ depth ih =>
      simp only [refine, halves_retold, mapError_bind, mapError_ite, ih]
      rfl

theorem simpson_retold (a b : α) :
    simpson (retold tell f) a b = (simpson f a b).mapError (Failure.retell tell) := by
  simp only [simpson, sample_retold, mapError_bind]
  rfl

theorem refinement_retold (a b tolerance : α) (depth : Int) (nesting : Option Nat) :
    refinement (retold tell f) a b tolerance depth nesting =
      (refinement f a b tolerance depth nesting).mapError (Failure.retell tell) := by
  simp only [refinement, sample_retold, mapError_bind, refine_retold]

theorem outcome_integrateUp_retold (a b tolerance : α) (depth : Int) (nesting : Option Nat) :
    (integrateUp (retold tell f) a b tolerance depth nesting).outcome =
      (integrateUp f a b tolerance depth nesting).outcome.mapError (Failure.retell tell) := by
  simp only [integrateUp, Report.outcome_bind, Report.ofExcept, refinement_retold, mapError_bind]
  rfl

theorem outcome_integrate_retold (a b tolerance : α) (depth : Int) (nesting : Option Nat) :
    (integrate (retold tell f) a b tolerance depth nesting).outcome =
      (integrate f a b tolerance depth nesting).outcome.mapError (Failure.retell tell) := by
  rw [integrate, integrate]
  split
  · rfl
  · split
    · rfl
    · split
      · simp only [Report.outcome_bind, outcome_integrateUp_retold, mapError_bind]
        rfl
      · exact outcome_integrateUp_retold tell f a b tolerance depth nesting

/-! ## The trapezoidal rule and its extrapolation -/

theorem trapezoid_retold (a b : α) (panels : Int) :
    trapezoid (retold tell f) a b panels =
      (trapezoid f a b panels).mapError (Failure.retell tell) := by
  have checked : (checkPanels panels : Except (Failure α ε') Unit) =
      (checkPanels panels : Except (Failure α ε) Unit).mapError (Failure.retell tell) := by
    rw [checkPanels, checkPanels]
    split <;> rfl
  simp only [trapezoid, checked, widthOf_retold tell, sumOver_retold, sample_retold, mapError_bind]
  rfl

theorem firstRow_retold (a b : α) :
    firstRow (retold tell f) a b = (firstRow f a b).mapError (Failure.retell tell) := by
  simp only [firstRow, sample_retold, mapError_bind]
  rfl

theorem nextRow_retold (a b : α) (number : Nat) (previous : List α) :
    nextRow (retold tell f) a b number previous =
      (nextRow f a b number previous).mapError (Failure.retell tell) := by
  simp only [nextRow, sumOver_retold, mapError_bind]
  rfl

theorem outcome_rombergRows_retold (a b tolerance : α) (numbers : List Nat) (previous : List α) :
    (rombergRows (retold tell f) a b tolerance numbers previous).outcome =
      (rombergRows f a b tolerance numbers previous).outcome.mapError (Failure.retell tell) := by
  induction numbers generalizing previous with
  | nil => rfl
  | cons number numbers ih =>
      simp only [rombergRows, Report.outcome_bind, Report.ofExcept, nextRow_retold, mapError_bind]
      congr 1
      funext row
      split
      · rfl
      · exact ih row

theorem outcome_romberg_retold (a b : α) (rows : Int) (tolerance : α) :
    (romberg (retold tell f) a b rows tolerance).outcome =
      (romberg f a b rows tolerance).outcome.mapError (Failure.retell tell) := by
  simp only [romberg, Report.outcome_bind, Report.ofExcept, firstRow_retold, mapError_bind,
    outcome_rombergRows_retold]

/-! ## Points without a value -/

/-- As with the searches for roots, both sides have to pass over the same failures. -/
theorem outcome_singularAmong_retold (passes : ε' → Bool) (points : List α) :
    (singularAmong (retold tell f) passes points).outcome =
      (singularAmong f (passes ∘ tell) points).outcome.mapError (Failure.retell tell) := by
  induction points with
  | nil => rfl
  | cons x points ih =>
      simp only [singularAmong, sample_retold]
      cases sample f x with
      | ok y => exact ih
      | error failure =>
          simp only [mapError_error, passedOver_retell]
          split
          · simp only [Report.outcome_bind, ih, mapError_bind]
            rfl
          · rfl

theorem outcome_discontinuities_retold (passes : ε' → Bool) (a b : α) (samples : Int) :
    (discontinuities (retold tell f) passes a b samples).outcome =
      (discontinuities f (passes ∘ tell) a b samples).outcome.mapError (Failure.retell tell) := by
  simp only [discontinuities, Report.outcome_bind, Report.ofExcept, widthOf_retold tell,
    outcome_singularAmong_retold, mapError_bind]

/-! ## Where causes come from -/

omit [Scalar α] in
variable {f} in
/-- A function that knows its causes makes a rule know the one that it ends with. -/
theorem cause_of_traced {β : Type} {run : Except (Failure α ε) β}
    {own : Except (Failure α (CauseOf f)) β}
    (same : run = own.mapError (Failure.retell Subtype.val)) {cause : ε}
    (failed : run = .error (.sample cause)) : ∃ x, f x = .error cause := by
  rw [same] at failed
  cases own with
  | ok y => cases failed
  | error failure =>
      cases failure with
      | sample known =>
          cases failed
          exact known.2
      | trouble cause => cases failed

variable {f} {cause : ε}

theorem cause_of_integrate {a b tolerance : α} {depth : Int} {nesting : Option Nat}
    (failed : (integrate f a b tolerance depth nesting).outcome = .error (.sample cause)) :
    ∃ x, f x = .error cause := by
  have same := outcome_integrate_retold Subtype.val (traced f) a b tolerance depth nesting
  rw [retold_traced] at same
  exact cause_of_traced same failed

theorem cause_of_simpson {a b : α} (failed : simpson f a b = .error (.sample cause)) :
    ∃ x, f x = .error cause := by
  have same := simpson_retold Subtype.val (traced f) a b
  rw [retold_traced] at same
  exact cause_of_traced same failed

theorem cause_of_trapezoid {a b : α} {panels : Int}
    (failed : trapezoid f a b panels = .error (.sample cause)) : ∃ x, f x = .error cause := by
  have same := trapezoid_retold Subtype.val (traced f) a b panels
  rw [retold_traced] at same
  exact cause_of_traced same failed

theorem cause_of_romberg {a b : α} {rows : Int} {tolerance : α}
    (failed : (romberg f a b rows tolerance).outcome = .error (.sample cause)) :
    ∃ x, f x = .error cause := by
  have same := outcome_romberg_retold Subtype.val (traced f) a b rows tolerance
  rw [retold_traced] at same
  exact cause_of_traced same failed

theorem cause_of_discontinuities {passes : ε → Bool} {a b : α} {samples : Int}
    (failed : (discontinuities f passes a b samples).outcome = .error (.sample cause)) :
    ∃ x, f x = .error cause := by
  have same := outcome_discontinuities_retold Subtype.val (traced f) passes a b samples
  rw [retold_traced] at same
  exact cause_of_traced same failed

end SciCalc.Quadrature
