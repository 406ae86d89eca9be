/-
# SciCalc.Proofs.Root.Windows -- Brent's method without bounds

Without bounds Brent's method is run on the first window around the guess whose ends enclose a
root, and Newton's method from the guess if no window does.  A window is passed if its ends do not
enclose a root, or if one of them has no value for a cause to be passed over (`Passed`); passed
windows have no influence on the outcome (`outcome_findWindow_passed`, `outcome_solve_found`,
`outcome_solve_unfound`).

The bounds of the window are not refused by the method that they are handed to: it judges them by
the same values (`regular_solve`).
-/
import SciCalc.Proofs.Root.Divisors
import SciCalc.Root.Search

namespace SciCalc.Root

set_option autoImplicit false

open SciCalc.Number

section Windows

variable {α ε : Type} [Scalar α]

/-- Whether the ends of the window with a given number enclose a root. -/
def enclosesAt (f : α → Except ε α) (guess : α) (number : Nat) : Except ε Bool :=
  enclosesOn f (window guess number).1 (window guess number).2

/-- The search goes on behind a window. -/
def Passed (f : α → Except ε α) (skips : ε → Bool) (guess : α) (number : Nat) : Prop :=
  enclosesAt f guess number = .ok false ∨
    ∃ cause, enclosesAt f guess number = .error cause ∧ skips cause = true

variable {f : α → Except ε α} {skips : ε → Bool} {guess : α}

theorem passed_of_not_enclosing {number : Nat}
    (skipped : ∀ cause, enclosesAt f guess number = .error cause → skips cause = true)
    (apart : enclosesAt f guess number ≠ .ok true) : Passed f skips guess number := by
  cases ended : enclosesAt f guess number with
  | error cause => exact .inr ⟨cause, ended, skipped cause ended⟩
  | ok enclosed =>
      cases enclosed with
      | true => exact absurd ended apart
      | false => exact .inl ended

theorem outcome_findWindow_passed {before : List Nat}
    (passed : ∀ number ∈ before, Passed f skips guess number) (after : List Nat) :
    (findWindow f skips guess (before ++ after)).outcome =
      (findWindow f skips guess after).outcome := by
  induction before with
  | nil => rfl
  | cons number before ih =>
      have rest := ih fun later inside => passed later (List.mem_cons_of_mem number inside)
      rw [List.cons_append, findWindow]
      obtain apart | ⟨cause, failed, skipped⟩ := passed number (List.mem_cons_self ..)
      · rw [enclosesAt] at apart
        simp only [apart]
        exact rest
      · rw [enclosesAt] at failed
        simp only [failed, skipped, if_true, Report.outcome_note_bind]
        exact rest

theorem outcome_findWindow_found {number : Nat} (enclosed : enclosesAt f guess number = .ok true)
    (after : List Nat) :
    (findWindow f skips guess (number :: after)).outcome = .ok (some (window guess number)) := by
  rw [enclosesAt] at enclosed
  rw [findWindow]
  simp only [enclosed]
  rfl

variable (f skips guess) in
/-- How the search for a window ends: none encloses a root, one does, or an end of one has no value
for a cause that is not to be passed over. -/
theorem outcome_findWindow_cases (numbers : List Nat) :
    (findWindow f skips guess numbers).outcome = .ok none ∨
    (∃ number, enclosesAt f guess number = .ok true ∧
      (findWindow f skips guess numbers).outcome = .ok (some (window guess number))) ∨
    ∃ cause, (findWindow f skips guess numbers).outcome = .error (.sample cause) := by
  induction numbers with
  | nil => exact .inl rfl
  | cons number numbers ih =>
      cases ended : enclosesAt f guess number with
      | ok enclosed =>
          cases enclosed with
          | true => exact .inr (.inl ⟨number, ended, outcome_findWindow_found ended numbers⟩)
          | false =>
              have passed : ∀ other ∈ [number], Passed f skips guess other := by
                intro other single
                exact List.mem_singleton.1 single ▸ .inl ended
              rw [← List.singleton_append, outcome_findWindow_passed passed]
              exact ih
      | error cause =>
          cases skipped : skips cause with
          | true =>
              have passed : ∀ other ∈ [number], Passed f skips guess other := by
                intro other single
                exact List.mem_singleton.1 single ▸ .inr ⟨cause, ended, skipped⟩
              rw [← List.singleton_append, outcome_findWindow_passed passed]
              exact ih
          | false =>
              refine .inr (.inr ⟨cause, ?_⟩)
              rw [enclosesAt] at ended
              rw [findWindow]
              simp only [ended, skipped]
              rfl

/-! ## The method that is run -/

omit [Scalar α] in
theorem outcome_conclude (method : Method) (run : Except (Failure α ε) (Ending α)) :
    (conclude method run).outcome = run.map Ending.root := by
  cases run <;> rfl

variable {t : Setting α}

/-- Without bounds, Brent's method is run on the window that is found, Newton's method if none
is. -/
theorem outcome_solve_search (method : t.method = .brent) (bounds : t.bounds = none) :
    (solve f skips t).outcome =
      (findWindow f skips t.guess windowNumbers).outcome >>= fun found =>
        match found with
        | some (a, b) => (brent f a b t.tolerance t.limit).map Ending.root
        | none => (newton f (centralDifference f differenceStep) t.guess t.tolerance t.limit).map
            Ending.root := by
  rw [solve, method, bounds]
  simp only [Report.outcome_bind]
  congr 1
  funext found
  cases found with
  | none =>
      simp only [Report.outcome_note_bind, newtonFromGuess, outcome_conclude]
  | some ends => exact outcome_conclude .brent _

theorem mem_windowNumbers {number : Nat} : number ∈ windowNumbers ↔ 1 ≤ number ∧ number ≤ 10 := by
  simp only [windowNumbers, windowCount, List.mem_map, List.mem_range]
  constructor
  · rintro ⟨i, small, rfl⟩
    omega
  · rintro ⟨positive, small⟩
    exact ⟨number - 1, by omega, by omega⟩

/-- The first window that encloses a root is the one Brent's method is run on. -/
theorem outcome_solve_found (method : t.method = .brent) (bounds : t.bounds = none) {number : Nat}
    (tried : number ∈ windowNumbers) (enclosed : enclosesAt f t.guess number = .ok true)
    (passed : ∀ before ∈ windowNumbers, before < number → Passed f skips t.guess before) :
    (solve f skips t).outcome =
      (brent f (window t.guess number).1 (window t.guess number).2 t.tolerance t.limit).map
        Ending.root := by
  obtain ⟨before, after, split⟩ := List.append_of_mem tried
  have ascending : windowNumbers.Pairwise (· < ·) := by decide
  have earlier : ∀ first ∈ before, first < number := by
    rw [split, List.pairwise_append] at ascending
    exact fun first inside => ascending.2.2 first inside number (List.mem_cons_self ..)
  have found : (findWindow f skips t.guess windowNumbers).outcome =
      .ok (some (window t.guess number)) := by
    rw [split, outcome_findWindow_passed, outcome_findWindow_found enclosed]
    intro first inside
    refine passed first ?_ (earlier first inside)
    rw [split]
    exact List.mem_append_left _ inside
  rw [outcome_solve_search method bounds, found]
  rfl

/-- If all windows are passed, Newton's method is run from the guess. -/
theorem outcome_solve_unfound (method : t.method = .brent) (bounds : t.bounds = none)
    (passed : ∀ number ∈ windowNumbers, Passed f skips t.guess number) :
    (solve f skips t).outcome =
      (newton f (centralDifference f differenceStep) t.guess t.tolerance t.limit).map
        Ending.root := by
  have unfound : (findWindow f skips t.guess windowNumbers).outcome = .ok none := by
    rw [← List.append_nil windowNumbers, outcome_findWindow_passed passed]
    rfl
  rw [outcome_solve_search method bounds, unfound]
  rfl

end Windows

theorem Regular.map {α ε β γ : Type} {run : Except (Failure α ε) β} (regular : Regular run)
    (g : β → γ) : Regular (run.map g) := by
  cases run with
  | ok x => exact regular_ok (g x)
  | error failure => exact regular_error (regular failure rfl)

/-- Solving by Brent's method without bounds fails only by what a method meets on its way: the
bounds it is run on are never refused. -/
theorem regular_solve {ε : Type} {f : Float → Except ε Float} {skips : ε → Bool} {t : Setting Float}
    (method : t.method = .brent) (bounds : t.bounds = none) :
    Regular (solve f skips t).outcome := by
  rw [outcome_solve_search method bounds]
  obtain unfound | ⟨number, enclosed, found⟩ | ⟨cause, failed⟩ :=
    outcome_findWindow_cases f skips t.guess windowNumbers
  · rw [unfound]
    have slopes : ∀ x, Regular (centralDifference f differenceStep x) :=
      centralDifference_regular (by decide +kernel)
    exact (newtonSteps_regular slopes t.limit.toNat 0 t.guess).map Ending.root
  · rw [found]
    obtain ⟨fa, left, rest⟩ := bind_eq_ok.1 enclosed
    obtain ⟨fb, right, same⟩ := bind_eq_ok.1 rest
    exact (brent_regular left right (Except.ok.inj same)).map Ending.root
  · rw [failed]
    exact regular_error rfl

end SciCalc.Root
