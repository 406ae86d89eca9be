/-
# SciCalc.Proofs.Root.BoundOrder -- the bounds of a bisection in either order

Bisection treats its two ends differently: it compares with the value at `a` only, moves `a`
where the comparison fails, and never looks at the value at `b` again.  All the same it keeps
the same half of a bracket and of the bracket turned round (`Bracket.halve_swap`).

The reason is that exactly one of the values at the ends is negative.  A middle that agrees with
one end in this differs from the other, whatever its value is; what is no number counts as not
negative, for both.  So two runs that begin with turned brackets work on turned brackets all the
way and sample the same points (`bisect_swap`), given that neither the middle nor the width of
a bracket depends on the order of its ends (`Unordered`).
-/
import SciCalc.Proofs.Number.Order
import SciCalc.Proofs.Root.Accepted

namespace SciCalc.Root

set_option autoImplicit false

open SciCalc.Number

/-- An arithmetic in which sums and distances do not depend on the order of the operands. -/
structure Unordered (α : Type) [Scalar α] : Prop where
  sum : ∀ x y : α, x + y = y + x
  distance : ∀ x y : α, Scalar.abs (x - y) = Scalar.abs (y - x)

theorem unordered_float : Unordered Float := ⟨sum_comm, distance_comm⟩

section Turned

variable {α : Type}

/-- The bracket with its ends exchanged. -/
def Bracket.swap (k : Bracket α) : Bracket α := ⟨k.b, k.fb, k.a, k.fa⟩

/-- The ending that differs in the order of the bracket's ends. -/
def Ending.swap : Ending α → Ending α
  | narrow root bracket iterations => narrow root bracket.swap iterations
  | exhausted root bracket limit => exhausted root bracket.swap limit
  | ending => ending

theorem Ending.root_swap (ending : Ending α) : ending.swap.root = ending.root := by
  cases ending <;> rfl

end Turned

/-- A function with a value everywhere. -/
def valued {α : Type} (ε : Type) (f : α → α) (x : α) : Except ε α := .ok (f x)

section Bisection

variable {α ε : Type} [Scalar α] {f : α → Except ε α} {tolerance : α} {limit : Int}

theorem encloses_comm (fa fb : α) : encloses fa fb = encloses fb fa := by
  rw [encloses, encloses, Bool.and_comm (Scalar.isFinite fa), Bool.or_comm (fa == 0.0),
    bne_comm]

namespace Bracket

theorem middle_swap (unordered : Unordered α) (k : Bracket α) : k.swap.middle = k.middle := by
  rw [middle, middle, swap, unordered.sum k.b]

/-- **The same half is kept**, whichever end the value in the middle is compared with. -/
theorem halve_swap (unordered : Unordered α) {k : Bracket α} (divided : k.Divided) (fm : α) :
    k.swap.halve fm = (k.halve fm).swap := by
  by_cases agrees : k.fa < 0.0 ↔ fm < 0.0
  · have differs : ¬ (k.swap.fa < 0.0 ↔ fm < 0.0) := fun both => divided (agrees.trans both.symm)
    rw [halve_of_agrees agrees, halve_of_differs differs, k.middle_swap unordered]
    rfl
  · have other : k.swap.fa < 0.0 ↔ fm < 0.0 :=
      (Decidable.not_iff.1 divided).symm.trans (Decidable.not_iff.1 agrees)
    rw [halve_of_differs agrees, halve_of_agrees other, k.middle_swap unordered]
    rfl

end Bracket

/-- Runs on brackets turned round end alike. -/
theorem bisect_swap (unordered : Unordered α) (left done : Nat) {k : Bracket α}
    (divided : k.Divided) :
    bisect f tolerance limit left done k.swap =
      (bisect f tolerance limit left done k).map Ending.swap := by
  induction left generalizing done k with
  | zero =>
      rw [bisect, bisect, k.middle_swap unordered]
      rfl
  | succ left ih =>
      have width : Scalar.abs (k.swap.b - k.swap.a) = Scalar.abs (k.b - k.a) :=
        unordered.distance k.a k.b
      rw [bisect, bisect, k.middle_swap unordered, width]
      cases (sample f k.middle : Except (Failure α ε) α) with
      | error cause => rfl
      | ok fm =>
          simp only [bind, Except.bind]
          split
          · rfl
          split
          · rfl
          rw [Bracket.halve_swap unordered divided]
          exact ih (done + 1) (divided.halve fm)

/-- A function with values everywhere lets every run end. -/
theorem bisect_returns (f : α → α) (left done : Nat) (k : Bracket α) :
    ∃ ending, bisect (valued ε f) tolerance limit left done k = .ok ending := by
  induction left generalizing done k with
  | zero => exact ⟨_, rfl⟩
  | succ left ih =>
      have sampled : sample (valued ε f) k.middle =
          (.ok (f k.middle) : Except (Failure α ε) α) := rfl
      rw [bisect, sampled]
      simp only [bind, Except.bind]
      split
      · exact ⟨_, rfl⟩
      split
      · exact ⟨_, rfl⟩
      exact ih (done + 1) _

end Bisection

section Doubles

variable {ε : Type} {a b fa fb tolerance : Float}

/-- Bounds that enclose a root, neither of them with a small value, have one negative value. -/
theorem divided_of_encloses (positive : 0.0 < tolerance) (root : encloses fa fb = true)
    (left : ¬ Scalar.abs fa < tolerance) (right : ¬ Scalar.abs fb < tolerance) :
    Bracket.Divided ⟨a, fa, b, fb⟩ := by
  rcases encloses_cases root with zero | zero | differ
  · exact absurd (abs_lt_of_eq_zero zero positive) left
  · exact absurd (abs_lt_of_eq_zero zero positive) right
  · exact differ

theorem bisection_of_encloses {f : Float → Except ε Float} (atA : f a = .ok fa)
    (atB : f b = .ok fb) (root : encloses fa fb = true) (tolerance : Float) (limit : Int) :
    bisection f a b tolerance limit =
      if Scalar.abs fa < tolerance then .ok (.bound a fa)
      else if Scalar.abs fb < tolerance then .ok (.bound b fb)
      else bisect f tolerance limit limit.toNat 0 ⟨a, fa, b, fb⟩ := by
  have accepted : ¬ encloses fa fb = false := by
    rw [root]
    exact Bool.noConfusion
  rw [bisection_of_values atA atB, if_neg accepted]

/-- From bounds that enclose a root, at most one of them with a small value, the two runs end
alike, whether or not they end at a root. -/
theorem bisection_swap {f : Float → Except ε Float} (positive : 0.0 < tolerance)
    (atA : f a = .ok fa) (atB : f b = .ok fb) (root : encloses fa fb = true)
    (large : ¬ (fa.abs < tolerance ∧ fb.abs < tolerance)) (limit : Int) :
    bisection f b a tolerance limit = (bisection f a b tolerance limit).map Ending.swap := by
  rw [bisection_of_encloses atA atB root,
    bisection_of_encloses atB atA ((encloses_comm fb fa).trans root)]
  by_cases smallA : Scalar.abs fa < tolerance
  · have largeB : ¬ Scalar.abs fb < tolerance := fun smallB => large ⟨smallA, smallB⟩
    simp only [if_pos smallA, if_neg largeB]
    rfl
  by_cases smallB : Scalar.abs fb < tolerance
  · simp only [if_neg smallA, if_pos smallB]
    rfl
  · simp only [if_neg smallA, if_neg smallB]
    exact bisect_swap unordered_float _ _ (divided_of_encloses positive root smallA smallB)

/-- A function with values everywhere lets bisection end once a root is enclosed. -/
theorem bisection_returns (f : Float → Float) (root : encloses (f a) (f b) = true)
    (tolerance : Float) (limit : Int) :
    ∃ ending, bisection (valued ε f) a b tolerance limit = .ok ending := by
  have values (x : Float) : valued ε f x = .ok (f x) := rfl
  rw [bisection_of_encloses (values a) (values b) root]
  split
  · exact ⟨_, rfl⟩
  split
  · exact ⟨_, rfl⟩
  exact bisect_returns f _ _ _

end Doubles

/-- **Bisection does not depend on the order of its bounds**, whatever the function, the
tolerance above zero and the number of iterations allowed: in either order it returns the same
double, or refuses the bounds.  A bound with a small value is returned itself, the first before
the second, so that not both may have one. -/
theorem bisection_bounds_comm {ε : Type} (f : Float → Float) {a b tolerance : Float}
    (positive : 0.0 < tolerance) (large : ¬ ((f a).abs < tolerance ∧ (f b).abs < tolerance))
    (limit : Int) :
    (∃ forth back, bisection (valued ε f) a b tolerance limit = .ok forth ∧
        bisection (valued ε f) b a tolerance limit = .ok back ∧ back.root = forth.root) ∨
      (bisection (valued ε f) a b tolerance limit =
          .error (.trouble (.noSignChange a (f a) b (f b))) ∧
        bisection (valued ε f) b a tolerance limit =
          .error (.trouble (.noSignChange b (f b) a (f a)))) := by
  have atA : valued ε f a = .ok (f a) := rfl
  have atB : valued ε f b = .ok (f b) := rfl
  cases root : encloses (f a) (f b) with
  | true =>
      obtain ⟨forth, ended⟩ := bisection_returns f root tolerance limit
      have back := bisection_swap positive atA atB root large limit
      rw [ended] at back
      exact .inl ⟨forth, forth.swap, ended, back, forth.root_swap⟩
  | false =>
      have refused : encloses (f b) (f a) = false := (encloses_comm _ _).trans root
      right
      rw [bisection_of_values atA atB, bisection_of_values atB atA, if_pos root, if_pos refused]
      exact ⟨rfl, rfl⟩

/-- A function that is no number in the middle of the range, with a root to the left of it: what
is no number counts as not negative in either order. -/
theorem bisection_bounds_comm_partial :
    let f (x : Float) : Float := if 1.0 < x ∧ x < 4.0 then 0.0 / 0.0 else x - 0.5
    let g := valued Unit f
    0.0 < (1e-8 : Float) ∧ ¬ ((f 0.0).abs < 1e-8 ∧ (f 4.0).abs < 1e-8) ∧
      bisection g 0.0 4.0 1e-8 100 = .ok (.smallValue 0.5 0.0 3) ∧
      ∃ back, bisection g 4.0 0.0 1e-8 100 = .ok back ∧ back.root = 0.5 := by
  intro f g
  have positive : 0.0 < (1e-8 : Float) := by decide +kernel
  have large : ¬ ((f 0.0).abs < 1e-8 ∧ (f 4.0).abs < 1e-8) := by decide +kernel
  have ended : bisection g 0.0 4.0 1e-8 100 = .ok (.smallValue 0.5 0.0 3) := by decide +kernel
  obtain ⟨forth, back, runs, runsBack, same⟩ | ⟨refused, -⟩ :=
    bisection_bounds_comm f positive large 100
  · obtain rfl : forth = .smallValue 0.5 0.0 3 := Except.ok.inj (runs.symm.trans ended)
    exact ⟨positive, large, ended, back, runsBack, same⟩
  · exact nomatch ended.symm.trans refused

end SciCalc.Root
