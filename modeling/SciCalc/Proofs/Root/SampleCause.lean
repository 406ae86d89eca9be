/-
# SciCalc.Proofs.Root.SampleCause -- root finders pass on the causes of failed samples

A root finder does not look into the cause of a sample that fails.  It asks only whether to
go on behind it (`skips`), and otherwise ends with that very cause.  So when the function's
failures are told in another way, every method ends as before with the failure told that
way, whichever sample it was; a trouble of the method's own is not told otherwise
(`outcome_solve_retold`, `outcome_findAll_retold`).  And the cause that a method ends with is
one that the function has at some point (`cause_of_solve`, `cause_of_findAll`).

One lemma for each function that samples, in the order in which they call each other.
Nothing here depends on the numbers.
-/
import SciCalc.Proofs.Outcome
import SciCalc.Root.Search

namespace SciCalc.Root

set_option autoImplicit false

open SciCalc.Number

section Failures

variable {α ε ε' : Type}

/-- The same failure, the cause of a failed sample told in another way. -/
def Failure.retell (tell : ε → ε') : Failure α ε → Failure α ε'
  | sample cause => .sample (tell cause)
  | trouble cause => .trouble cause

variable (tell : ε → ε') (f : α → Except ε α) (skips : ε' → Bool)

theorem sample_retold (x : α) :
    sample (retold tell f) x = (sample f x).mapError (Failure.retell tell) := by
  rw [sample, sample, retold]
  cases f x <;> rfl

theorem passedOver_retell (failure : Failure α ε) :
    (failure.retell tell).passedOver skips = failure.passedOver (skips ∘ tell) := by
  cases failure with
  | sample cause => rfl
  | trouble cause => cases cause <;> rfl

theorem outcome_conclude_retell (method : Method) (run : Except (Failure α ε) (Ending α)) :
    (conclude method (run.mapError (Failure.retell tell))).outcome =
      (conclude method run).outcome.mapError (Failure.retell tell) := by
  cases run <;> rfl

theorem outcome_valueAt_retold (x : α) :
    (valueAt (retold tell f) skips x).outcome =
      (valueAt f (skips ∘ tell) x).outcome.mapError (Failure.retell tell) := by
  rw [valueAt, valueAt, retold]
  cases f x with
  | ok y => rfl
  | error cause =>
      by_cases skipped : skips (tell cause) = true
      · simp only [mapError_error, Function.comp_apply, skipped, if_true]
        rfl
      · simp only [mapError_error, Function.comp_apply, skipped]
        rfl

end Failures

variable {α ε ε' : Type} [Scalar α] (tell : ε → ε') (f : α → Except ε α)

/-- A zero divisor is a trouble of the method's own. -/
theorem divide_retold (x y : α) :
    (divide x y : Except (Failure α ε') α) =
      (divide x y : Except (Failure α ε) α).mapError (Failure.retell tell) := by
  rw [divide, divide]
  split <;> rfl

/-! ## Bisection -/

theorem bisect_retold (tolerance : α) (limit : Int) (left done : Nat) (k : Bracket α) :
    bisect (retold tell f) tolerance limit left done k =
      (bisect f tolerance limit left done k).mapError (Failure.retell tell) := by
  induction left generalizing done k with
  | zero => rfl
  | succ left ih =>
      simp only [bisect, sample_retold, mapError_bind, mapError_ite, ih]
      rfl

theorem bisection_retold (a b tolerance : α) (limit : Int) :
    bisection (retold tell f) a b tolerance limit =
      (bisection f a b tolerance limit).mapError (Failure.retell tell) := by
  simp only [bisection, sample_retold, mapError_bind, mapError_ite, bisect_retold]
  rfl

/-! ## Newton's method and the secant method -/

theorem centralDifference_retold (step x : α) :
    centralDifference (retold tell f) step x =
      (centralDifference f step x).mapError (Failure.retell tell) := by
  simp only [centralDifference, sample_retold, mapError_bind, divide_retold tell]

/-- The slope samples the function too, so that its failures are told otherwise with those of
the function. -/
theorem newtonSteps_retold (slope : α → Except (Failure α ε) α) (tolerance : α) (limit : Int)
    (left done : Nat) (x : α) :
    newtonSteps (retold tell f) (retold (Failure.retell tell) slope) tolerance limit left done x =
      (newtonSteps f slope tolerance limit left done x).mapError (Failure.retell tell) := by
  induction left generalizing done x with
  | zero => rfl
  | succ left ih =>
      simp only [newtonSteps, sample_retold, retold, mapError_bind, mapError_ite, ih,
        divide_retold tell]
      rfl

theorem secantSteps_retold (tolerance : α) (limit : Int) (left done : Nat) (x₀ f₀ x₁ : α) :
    secantSteps (retold tell f) tolerance limit left done x₀ f₀ x₁ =
      (secantSteps f tolerance limit left done x₀ f₀ x₁).mapError (Failure.retell tell) := by
  induction left generalizing done x₀ f₀ x₁ with
  | zero => rfl
  | succ left ih =>
      simp only [secantSteps, sample_retold, mapError_bind, mapError_ite, ih, divide_retold tell]
      rfl

theorem secant_retold (x₀ x₁ tolerance : α) (limit : Int) :
    secant (retold tell f) x₀ x₁ tolerance limit =
      (secant f x₀ x₁ tolerance limit).mapError (Failure.retell tell) := by
  simp only [secant, sample_retold, mapError_bind, secantSteps_retold]

/-! ## Brent's method -/

namespace Brent

theorem interpolate_retold (s : Brent α) :
    (s.interpolate : Except (Failure α ε') (α × α)) =
      (s.interpolate : Except (Failure α ε) (α × α)).mapError (Failure.retell tell) := by
  simp only [interpolate, mapError_bind, mapError_ite, divide_retold tell]
  rfl

theorem stride_retold (s : Brent α) (resolution : α) :
    (s.stride resolution : Except (Failure α ε') (α × α)) =
      (s.stride resolution : Except (Failure α ε) (α × α)).mapError (Failure.retell tell) := by
  simp only [stride, mapError_bind, mapError_ite, divide_retold tell, interpolate_retold tell]
  rfl

theorem round_retold (tolerance : α) (done : Nat) (s : Brent α) :
    round (retold tell f) tolerance done s =
      (round f tolerance done s).mapError (Failure.retell tell) := by
  simp only [round, sample_retold, mapError_bind, mapError_ite, stride_retold tell]
  rfl

theorem iterate_retold (tolerance : α) (limit : Int) (left done : Nat) (s : Brent α) :
    iterate (retold tell f) tolerance limit left done s =
      (iterate f tolerance limit left done s).mapError (Failure.retell tell) := by
  induction left generalizing done s with
  | zero => rfl
  | succ left ih =>
      rw [iterate, iterate, round_retold]
      cases round f tolerance done s with
      | error cause => rfl
      | ok result =>
          cases result with
          | inl ending => rfl
          | inr next => exact ih (done + 1) next

end Brent

theorem brent_retold (a b tolerance : α) (limit : Int) :
    brent (retold tell f) a b tolerance limit =
      (brent f a b tolerance limit).mapError (Failure.retell tell) := by
  simp only [brent, sample_retold, mapError_bind, mapError_ite, Brent.iterate_retold]
  rfl

/-! ## Searches

A search on the function told otherwise asks whether to skip what it is told; on the function
itself it has to ask the same, hence `skips ∘ tell`. -/

variable (skips : ε' → Bool)

theorem enclosesOn_retold (a b : α) :
    enclosesOn (retold tell f) a b = (enclosesOn f a b).mapError tell := by
  simp only [enclosesOn, retold, mapError_bind]
  rfl

theorem outcome_findWindow_retold (guess : α) (numbers : List Nat) :
    (findWindow (retold tell f) skips guess numbers).outcome =
      (findWindow f (skips ∘ tell) guess numbers).outcome.mapError (Failure.retell tell) := by
  induction numbers with
  | nil => rfl
  | cons number numbers ih =>
      simp only [findWindow, enclosesOn_retold]
      cases enclosesOn f (window guess number).1 (window guess number).2 with
      | error cause =>
          by_cases skipped : skips (tell cause) = true
          · simpa only [mapError_error, Function.comp_apply, skipped, if_true,
              Report.outcome_note_bind] using ih
          · simp only [mapError_error, Function.comp_apply, skipped]
            rfl
      | ok found =>
          cases found with
          | true => rfl
          | false => exact ih

theorem outcome_newtonFromGuess_retold (t : Setting α) :
    (newtonFromGuess (retold tell f) t).outcome =
      (newtonFromGuess f t).outcome.mapError (Failure.retell tell) := by
  have slope : centralDifference (retold tell f) differenceStep =
      retold (Failure.retell tell) (centralDifference f differenceStep) :=
    funext (centralDifference_retold tell f differenceStep)
  rw [newtonFromGuess, newtonFromGuess, newton, slope, newtonSteps_retold,
    outcome_conclude_retell, newton]

theorem outcome_solve_retold (t : Setting α) :
    (solve (retold tell f) skips t).outcome =
      (solve f (skips ∘ tell) t).outcome.mapError (Failure.retell tell) := by
  rw [solve, solve]
  cases t.method with
  | bisection =>
      cases t.bounds with
      | none => rfl
      | some bounds => simp only [bisection_retold, outcome_conclude_retell]
  | newton => exact outcome_newtonFromGuess_retold tell f t
  | secant => simp only [secant_retold, outcome_conclude_retell]
  | brent =>
      cases t.bounds with
      | some bounds => simp only [brent_retold, outcome_conclude_retell]
      | none =>
          simp only [Report.outcome_bind, outcome_findWindow_retold]
          cases (findWindow f (skips ∘ tell) t.guess windowNumbers).outcome with
          | error cause => rfl
          | ok found =>
              cases found with
              | none => exact outcome_newtonFromGuess_retold tell f t
              | some bounds =>
                  have same := brent_retold tell f bounds.1 bounds.2 t.tolerance t.limit
                  exact (congrArg (fun run => (conclude .brent run).outcome) same).trans
                    (outcome_conclude_retell tell .brent _)

theorem outcome_rootBetween_retold (tolerance : α) (limit : Int) (x₀ : α) (f₀ : Option α)
    (x₁ : α) (f₁ : Option α) :
    (rootBetween (retold tell f) skips tolerance limit x₀ f₀ x₁ f₁).outcome =
      (rootBetween f (skips ∘ tell) tolerance limit x₀ f₀ x₁ f₁).outcome.mapError
        (Failure.retell tell) := by
  rw [rootBetween.eq_def, rootBetween.eq_def]
  split
  · split
    · rw [Report.outcome_attempt_bind, Report.outcome_attempt_bind, brent_retold,
        outcome_conclude_retell]
      cases (conclude .brent (brent f x₀ x₁ tolerance limit)).outcome with
      | ok root => rfl
      | error failure =>
          simp only [mapError_error, passedOver_retell]
          split <;> rfl
    · rfl
  · rfl

theorem outcome_scan_retold (a step tolerance : α) (limit : Int) (numbers : List Nat) (x₀ : α)
    (f₀ : Option α) (roots : List α) :
    (scan (retold tell f) skips a step tolerance limit numbers x₀ f₀ roots).outcome =
      (scan f (skips ∘ tell) a step tolerance limit numbers x₀ f₀ roots).outcome.mapError
        (Failure.retell tell) := by
  induction numbers generalizing x₀ f₀ roots with
  | nil => rfl
  | cons number numbers ih =>
      simp only [scan, Report.outcome_bind, outcome_valueAt_retold, outcome_rootBetween_retold,
        mapError_bind]
      congr 1
      funext f₁
      congr 1
      funext found
      cases found with
      | none => exact ih _ _ _
      | some root => exact ih _ _ _

theorem outcome_findAll_retold (a b : α) (divisions : Int) (tolerance : α) (limit : Int) :
    (findAll (retold tell f) skips a b divisions tolerance limit).outcome =
      (findAll f (skips ∘ tell) a b divisions tolerance limit).outcome.mapError
        (Failure.retell tell) := by
  have width : (partWidth a b divisions).mapError
        (fun cause => (.trouble (.parts cause) : Failure α ε')) =
      ((partWidth a b divisions).mapError
        (fun cause => (.trouble (.parts cause) : Failure α ε))).mapError
          (Failure.retell tell) := by
    cases partWidth a b divisions <;> rfl
  simp only [findAll, Report.outcome_bind, outcome_valueAt_retold, outcome_scan_retold,
    mapError_bind, Report.ofExcept, width]
  rfl

/-! ## Where causes come from -/

omit [Scalar α] in
variable {f} in
/-- A function that knows its causes makes a method know the one that it ends with. -/
theorem cause_of_traced {β : Type} {run : Except (Failure α ε) β}
    {own : Except (Failure α (CauseOf f)) β}
    (same : run = own.mapError (Failure.retell Subtype.val)) {cause : ε}
    (failed : run = .error (.sample cause)) : ∃ x, f x = .error cause := by
  rw [same] at failed
  cases own with
  | ok y => cases failed
  | error failure =>
      cases failure with
      | sample known =>
          cases failed
          exact known.2
      | trouble cause => cases failed

variable {f}

theorem cause_of_solve {skips : ε → Bool} {t : Setting α} {cause : ε}
    (failed : (solve f skips t).outcome = .error (.sample cause)) : ∃ x, f x = .error cause := by
  have same := outcome_solve_retold Subtype.val (traced f) skips t
  rw [retold_traced] at same
  exact cause_of_traced same failed

theorem cause_of_findAll {skips : ε → Bool} {a b : α} {divisions : Int} {tolerance : α}
    {limit : Int} {cause : ε}
    (failed : (findAll f skips a b divisions tolerance limit).outcome = .error (.sample cause)) :
    ∃ x, f x = .error cause := by
  have same := outcome_findAll_retold Subtype.val (traced f) skips a b divisions tolerance limit
  rw [retold_traced] at same
  exact cause_of_traced same failed

end SciCalc.Root
