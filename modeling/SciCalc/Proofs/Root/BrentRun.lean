/-
# SciCalc.Proofs.Root.BrentRun -- the iterations of Brent's method

A run goes through states, one for each iteration, until an iteration ends it, fails, or is
the last that is allowed.  `Visits` are the states it goes through; what the first one has
and every iteration keeps, all of them have.  Nothing here depends on the numbers.
-/
import SciCalc.Root.Brent

namespace SciCalc.Root

set_option autoImplicit false

open SciCalc.Number

theorem sample_extension {α ε : Type} {f g : α → Except ε α}
    (extension : ∀ x y, g x = .ok y → f x = .ok y) (x : α) :
    (∃ cause, sample g x = .error (.sample cause)) ∨ sample f x = sample g x := by
  cases value : g x with
  | error cause => exact .inl ⟨cause, by rw [sample, value]⟩
  | ok y => exact .inr (by rw [sample, sample, value, extension x y value])

namespace Brent

variable {α ε : Type} [Scalar α]

/-- The states in which an iteration begins, each with the number of iterations before it. -/
inductive Visits (f : α → Except ε α) (tolerance : α) (first : Brent α) : Nat → Brent α → Prop
  | zero : Visits f tolerance first 0 first
  | succ {done : Nat} {s t : Brent α} (visited : Visits f tolerance first done s)
      (continued : round f tolerance done s = .ok (.inr t)) : Visits f tolerance first (done + 1) t

variable {f : α → Except ε α} {tolerance : α} {first : Brent α}

theorem Visits.keeps {done : Nat} {s : Brent α} (visited : Visits f tolerance first done s)
    (kept : Brent α → Prop) (initially : kept first)
    (step : ∀ n s t, kept s → round f tolerance n s = .ok (.inr t) → kept t) : kept s := by
  induction visited with
  | zero => exact initially
  | succ _ continued keptBefore => exact step _ _ _ keptBefore continued

/-- A run ends as the iteration at one of the visited states does, or has used up all
iterations allowed. -/
theorem iterate_cases (limit : Int) (left : Nat) {done : Nat} {s : Brent α}
    (visited : Visits f tolerance first done s) :
    (∃ n t ending, n < done + left ∧ Visits f tolerance first n t ∧
      round f tolerance n t = .ok (.inl ending) ∧
      iterate f tolerance limit left done s = .ok ending) ∨
    (∃ n t cause, n < done + left ∧ Visits f tolerance first n t ∧
      round f tolerance n t = .error cause ∧
      iterate f tolerance limit left done s = .error cause) ∨
    ∃ t, Visits f tolerance first (done + left) t ∧
      iterate f tolerance limit left done s = .error (.trouble (.notConverged .brent limit)) := by
  induction left generalizing done s with
  | zero => exact .inr (.inr ⟨s, visited, rfl⟩)
  | succ left ih =>
      rw [iterate]
      cases outcome : round f tolerance done s with
      | error cause => exact .inr (.inl ⟨done, s, cause, by omega, visited, outcome, rfl⟩)
      | ok result =>
          cases result with
          | inl ending => exact .inl ⟨done, s, ending, by omega, visited, outcome, rfl⟩
          | inr t =>
              have later := ih (visited.succ outcome)
              rwa [Nat.add_right_comm done 1 left] at later

/-! ## The function is seen through its values only -/

section Extension

variable {g : α → Except ε α}

theorem round_extension (extension : ∀ x y, g x = .ok y → f x = .ok y) (tolerance : α)
    (done : Nat) (s : Brent α) :
    (∃ cause, round g tolerance done s = .error (.sample cause)) ∨
      round f tolerance done s = round g tolerance done s := by
  rw [round, round]
  generalize s.prepare = p
  dsimp only
  split
  · exact .inr rfl
  · split
    · exact .inr rfl
    · cases (p.stride (p.resolution tolerance) : Except (Failure α ε) (α × α)) with
      | error cause => exact .inr rfl
      | ok step =>
          obtain ⟨d, e⟩ := step
          obtain ⟨cause, failed⟩ | same :=
            sample_extension extension (p.target (p.resolution tolerance) d)
          · exact .inl ⟨cause, by simp only [bind, Except.bind, failed]⟩
          · exact .inr (by simp only [bind, Except.bind, same])

theorem iterate_extension (extension : ∀ x y, g x = .ok y → f x = .ok y) (limit : Int)
    (left done : Nat) (s : Brent α) :
    (∃ cause, iterate g tolerance limit left done s = .error (.sample cause)) ∨
      iterate f tolerance limit left done s = iterate g tolerance limit left done s := by
  induction left generalizing done s with
  | zero => exact .inr rfl
  | succ left ih =>
      rw [iterate, iterate]
      obtain ⟨cause, failed⟩ | same := round_extension extension tolerance done s
      · rw [failed]
        exact .inl ⟨cause, rfl⟩
      · rw [same]
        cases round g tolerance done s with
        | error cause => exact .inr rfl
        | ok result =>
            cases result with
            | inl ending => exact .inr rfl
            | inr t => exact ih (done + 1) t

end Extension

end Brent

/-- Where one function has the values of another and more, Brent's method gives the same on
both, unless it asks for a value that the smaller one has not. -/
theorem brent_extension {α ε : Type} [Scalar α] {f g : α → Except ε α}
    (extension : ∀ x y, g x = .ok y → f x = .ok y) (a b tolerance : α) (limit : Int) :
    (∃ cause, brent g a b tolerance limit = .error (.sample cause)) ∨
      brent f a b tolerance limit = brent g a b tolerance limit := by
  rw [brent, brent]
  obtain ⟨cause, failed⟩ | sameLeft := sample_extension extension a
  · exact .inl ⟨cause, by rw [failed]; rfl⟩
  · rw [sameLeft]
    cases (sample g a : Except (Failure α ε) α) with
    | error cause => exact .inr rfl
    | ok fa =>
        obtain ⟨cause, failed⟩ | sameRight := sample_extension extension b
        · exact .inl ⟨cause, by simp only [bind, Except.bind, failed]⟩
        · rw [sameRight]
          cases (sample g b : Except (Failure α ε) α) with
          | error cause => exact .inr rfl
          | ok fb =>
              simp only [bind, Except.bind]
              split
              · exact .inr rfl
              · split
                · exact .inr rfl
                · exact Brent.iterate_extension extension limit limit.toNat 0 _

end SciCalc.Root
