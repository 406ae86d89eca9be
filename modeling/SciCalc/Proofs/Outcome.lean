/-
# SciCalc.Proofs.Outcome -- how a sequence of computations ends

A sequence of two computations fails when the first does, or the second does on what the
first gave.

Telling the failures of a computation in another way can be done at its end or in each of
its steps (`mapError_bind`, `mapError_ite`, `mapError_foldlM`).  So a function whose failures
are told otherwise (`retold`) can stand in for the function itself in whatever is computed
from its values, as long as the failures are then told otherwise too.  In this way a cause
can also be followed to the point where it comes from (`retold_traced`).

The outcome of a report is a computation without notes (`Report.outcome_bind`).
-/
import SciCalc.Report

namespace SciCalc

set_option autoImplicit false

instance decidableEqExcept {ε α : Type} [DecidableEq ε] [DecidableEq α] :
    DecidableEq (Except ε α)
  | .error e, .error f => decidable_of_iff (e = f) (Except.error.injEq e f).symm.to_iff
  | .ok x, .ok y => decidable_of_iff (x = y) (Except.ok.injEq x y).symm.to_iff
  | .error _, .ok _ => isFalse (by rintro ⟨⟩)
  | .ok _, .error _ => isFalse (by rintro ⟨⟩)

section Failing

variable {ε α β : Type} {first : Except ε α} {next : α → Except ε β}

theorem bind_eq_error {e : ε} :
    first >>= next = .error e ↔ first = .error e ∨ ∃ x, first = .ok x ∧ next x = .error e := by
  constructor
  · intro failure
    cases first with
    | error cause => exact .inl (by cases failure; rfl)
    | ok x => exact .inr ⟨x, rfl, failure⟩
  · rintro (rfl | ⟨x, rfl, failure⟩)
    · rfl
    · exact failure

/-- A fold fails at one element, up to which it has come. -/
theorem exists_failing_of_foldlM {step : β → α → Except ε β} {xs : List α} {start : β} {e : ε}
    (failed : xs.foldlM step start = .error e) :
    ∃ front x behind y, xs = front ++ x :: behind ∧ front.foldlM step start = .ok y ∧
      step y x = .error e := by
  induction xs generalizing start with
  | nil => cases failed
  | cons x xs ih =>
      rw [List.foldlM_cons, bind_eq_error] at failed
      rcases failed with here | ⟨next, stepped, later⟩
      · exact ⟨[], x, xs, start, rfl, rfl, here⟩
      · obtain ⟨front, u, behind, y, rfl, passed, fails⟩ := ih later
        refine ⟨x :: front, u, behind, y, rfl, ?_, fails⟩
        rw [List.foldlM_cons, stepped]
        exact passed

theorem bind_eq_ok {y : β} :
    first >>= next = .ok y ↔ ∃ x, first = .ok x ∧ next x = .ok y := by
  constructor
  · intro success
    cases first with
    | error cause => cases success
    | ok x => exact ⟨x, rfl, success⟩
  · rintro ⟨x, rfl, success⟩
    exact success

end Failing

section Telling

variable {ε ε' ε'' α β : Type} (tell : ε → ε')

theorem mapError_error (cause : ε) :
    (.error cause : Except ε α).mapError tell = .error (tell cause) := by
  rfl

theorem mapError_eq_error {outcome : Except ε α} {told : ε'} :
    outcome.mapError tell = .error told ↔ ∃ cause, outcome = .error cause ∧ tell cause = told := by
  constructor
  · intro failed
    cases outcome with
    | ok x => cases failed
    | error cause => exact ⟨cause, rfl, Except.error.inj failed⟩
  · rintro ⟨cause, rfl, rfl⟩
    rfl

theorem mapError_mapError (again : ε' → ε'') (outcome : Except ε α) :
    (outcome.mapError tell).mapError again = outcome.mapError (again ∘ tell) := by
  cases outcome <;> rfl

theorem mapError_bind (first : Except ε α) (next : α → Except ε β) :
    (first >>= next).mapError tell = first.mapError tell >>= fun x => (next x).mapError tell := by
  cases first <;> rfl

theorem mapError_ite (c : Prop) [Decidable c] (yes no : Except ε α) :
    (if c then yes else no).mapError tell =
      if c then yes.mapError tell else no.mapError tell := by
  split <;> rfl

theorem mapError_foldlM (step : β → α → Except ε β) (xs : List α) (first : β) :
    (xs.foldlM step first).mapError tell =
      xs.foldlM (fun y x => (step y x).mapError tell) first := by
  induction xs generalizing first with
  | nil => rfl
  | cons x xs ih => simp only [List.foldlM_cons, mapError_bind, ih]

/-- A function whose failures are told in another way. -/
def retold (f : α → Except ε β) (x : α) : Except ε' β := (f x).mapError tell

end Telling

section Tracing

variable {ε α β : Type} (f : α → Except ε β)

/-- A cause with which a function fails somewhere. -/
abbrev CauseOf : Type := {cause : ε // ∃ x, f x = .error cause}

/-- A function that fails with what is known of its causes. -/
def traced (x : α) : Except (CauseOf f) β :=
  match failed : f x with
  | .ok y => .ok y
  | .error cause => .error ⟨cause, x, failed⟩

/-- Without what is known of them, its causes are the function's. -/
theorem retold_traced : retold Subtype.val (traced f) = f := by
  funext x
  rw [retold, traced]
  split <;> rename_i ended
  · exact ended.symm
  · exact ended.symm

end Tracing

namespace Report

variable {ν ε ε' α β : Type}

theorem outcome_bind (first : Report ν ε α) (next : α → Report ν ε β) :
    (first >>= next).outcome = first.outcome >>= fun x => (next x).outcome := by
  cases ended : first.outcome with
  | error cause => rw [outcome_bind_error _ _ _ ended]; rfl
  | ok x => rw [outcome_bind_ok _ _ _ ended]; rfl

theorem outcome_note_bind (n : ν) (next : Report ν ε α) :
    (note n >>= fun _ => next).outcome = next.outcome := by
  rfl

theorem outcome_attempt_bind (r : Report ν ε α) (next : Except ε α → Report ν ε' β) :
    (r.attempt >>= next).outcome = (next r.outcome).outcome := by
  rfl

end Report

end SciCalc
