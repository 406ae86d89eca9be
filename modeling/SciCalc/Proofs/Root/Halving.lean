/-
# SciCalc.Proofs.Root.Halving -- bisection keeps and halves its bracket

Over the rationals every iteration of bisection works on a bracket that is the range between
the bounds halved so many times, with a negative value at exactly one end.  Halving keeps both:
the midpoint replaces an end, and it replaces the one whose value it agrees with in sign.

So a run can only end in the middle of such a bracket, for one of three reasons: the value
there is small, the bracket is narrow, or it has been halved as often as allowed (`Halving`).
In the last case the value in the middle is not looked at.

Before the first iteration the bounds themselves may end the run.  They are refused if they do
not enclose a root, and one with a small value is the root, the first bound before the second.
That is why the signs differ later on: a value that is zero is small.
-/
import SciCalc.Proofs.Quadrature.ErrorBudget
import SciCalc.Proofs.Root.Accepted
import SciCalc.Proofs.Root.BrentBracket

namespace SciCalc.Root

set_option autoImplicit false

open SciCalc.Number
open SciCalc.Quadrature (Halved)

variable {f : Rat → Rat} {a b tolerance : Rat}

namespace Bracket

theorem middle_rat (k : Bracket Rat) : k.middle = (k.a + k.b) / 2 := by
  show (k.a + k.b) / (2.0 : Rat) = _
  norm_num

/-- Whichever half is kept, the interval has been halved once more. -/
theorem halved_halve {done : Nat} {k : Bracket Rat} (halved : Halved a b done k.a k.b)
    (fm : Rat) : Halved a b (done + 1) (k.halve fm).a (k.halve fm).b := by
  unfold halve
  split
  · exact .left halved
  · exact .right halved

/-- The signs that a bracket records are those of the function. -/
theorem Divided.of_sampled {k : Bracket Rat} (known : k.Sampled (total f))
    (divided : k.Divided) : ¬ (f k.a < 0 ↔ f k.b < 0) := by
  have left : f k.a = k.fa := Except.ok.inj known.1
  have right : f k.b = k.fb := Except.ok.inj known.2
  rw [left, right]
  simpa [Divided, zero_rat] using divided

end Bracket

/-- A root in the middle of the interval from `c` to `d`: the range halved `n` times, at most as
often as allowed, with one negative end; and a reason to stop there. -/
structure Halving (f : Rat → Rat) (a b tolerance : Rat) (allowed n : Nat) (c d root : Rat) :
    Prop where
  few : n ≤ allowed
  halved : Halved a b n c d
  divided : ¬ (f c < 0 ↔ f d < 0)
  middle : root = (c + d) / 2
  stops : |f root| < tolerance ∨ |d - c| < tolerance ∨ n = allowed

/-- Exactly one of two values that enclose a root is negative, unless one of them is small. -/
theorem divided_of_opposed {x y : Rat} (positive : 0 < tolerance) (opposed : Opposed x y)
    (left : ¬ |x| < tolerance) (right : ¬ |y| < tolerance) : ¬ (x < 0 ↔ y < 0) := by
  rcases opposed with zero | zero | ⟨negative, above⟩ | ⟨above, negative⟩
  · exact absurd (by rwa [zero, abs_zero]) left
  · exact absurd (by rwa [zero, abs_zero]) right
  · exact fun same => above.not_gt (same.1 negative)
  · exact fun same => above.not_gt (same.2 negative)

/-- From a bracket that the range has been halved to, a run ends in the middle of another. -/
theorem bisect_halving (tolerance : Rat) (limit : Int) (left : Nat) {done : Nat}
    {k : Bracket Rat} (known : k.Sampled (total f)) (divided : k.Divided)
    (halved : Halved a b done k.a k.b) :
    ∃ ending n c d, bisect (total f) tolerance limit left done k = .ok ending ∧
      Halving f a b tolerance (done + left) n c d ending.root := by
  induction left generalizing done k with
  | zero =>
      exact ⟨.exhausted k.middle k limit, done, k.a, k.b, rfl, le_rfl, halved,
        divided.of_sampled known, k.middle_rat, .inr (.inr rfl)⟩
  | succ left ih =>
      -- Either test ends the run in the bracket that the iteration began with.
      have ended (ending : Ending Rat) (same : ending.root = k.middle)
          (stops : |f k.middle| < tolerance ∨ |k.b - k.a| < tolerance) :
          Halving f a b tolerance (done + (left + 1)) done k.a k.b ending.root := by
        refine ⟨by omega, halved, divided.of_sampled known, same.trans k.middle_rat, ?_⟩
        rw [same]
        exact stops.imp_right .inl
      have sampled : sample (total f) k.middle =
          (.ok (f k.middle) : Except (Failure Rat Unit) Rat) := rfl
      simp only [bisect, sampled, abs_rat, bind, Except.bind]
      by_cases small : |f k.middle| < tolerance
      · rw [if_pos small]
        exact ⟨_, done, k.a, k.b, rfl, ended (.smallValue k.middle _ _) rfl (.inl small)⟩
      · rw [if_neg small]
        by_cases narrow : |k.b - k.a| < tolerance
        · rw [if_pos narrow]
          exact ⟨_, done, k.a, k.b, rfl, ended (.narrow k.middle k _) rfl (.inr narrow)⟩
        · rw [if_neg narrow]
          have rest := ih (known.halve rfl) (divided.halve (f k.middle))
            (Bracket.halved_halve halved (f k.middle))
          rwa [Nat.add_right_comm, Nat.add_assoc] at rest

/-- What is done before the first halving. -/
theorem bisection_eq (f : Rat → Rat) (a b tolerance : Rat) (limit : Int) :
    bisection (total f) a b tolerance limit =
      if encloses (f a) (f b) = false then .error (.trouble (.noSignChange a (f a) b (f b)))
      else if |f a| < tolerance then .ok (.bound a (f a))
      else if |f b| < tolerance then .ok (.bound b (f b))
      else bisect (total f) tolerance limit limit.toNat 0 ⟨a, f a, b, f b⟩ := by
  have left : total f a = .ok (f a) := rfl
  have right : total f b = .ok (f b) := rfl
  rw [← abs_rat, ← abs_rat]
  exact bisection_of_values left right tolerance limit

/-- **Bisection keeps and halves its bracket**, whatever the function, the bounds, the tolerance
above zero and the number of iterations allowed.  If the bounds enclose a root and neither value
is small, it returns the middle of the range halved at most as often as allowed, where exactly
one end has a negative value; and the value in the middle is small, or the interval is narrow,
or all iterations are used up.  A bound with a small value is returned itself, the first before
the second.  Only bounds that do not enclose a root are refused. -/
theorem bisection_halves (f : Rat → Rat) (a b : Rat) {tolerance : Rat} (positive : 0 < tolerance)
    (limit : Nat) :
    (Opposed (f a) (f b) →
      (tolerance ≤ |f a| → tolerance ≤ |f b| →
        ∃ ending n c d, bisection (total f) a b tolerance limit = .ok ending ∧
          Halving f a b tolerance limit n c d ending.root ∧ |d - c| = |b - a| / 2 ^ n) ∧
      (|f a| < tolerance → bisection (total f) a b tolerance limit = .ok (.bound a (f a))) ∧
      (tolerance ≤ |f a| → |f b| < tolerance →
        bisection (total f) a b tolerance limit = .ok (.bound b (f b)))) ∧
    (¬ Opposed (f a) (f b) →
      bisection (total f) a b tolerance limit =
        .error (.trouble (.noSignChange a (f a) b (f b)))) := by
  rw [bisection_eq, ← encloses_rat]
  constructor
  · intro root
    rw [if_neg (by rw [root]; exact Bool.noConfusion)]
    refine ⟨fun left right => ?_, fun small => if_pos small, fun left small => ?_⟩
    · have divided := divided_of_opposed positive ((encloses_rat _ _).1 root) left.not_gt
        right.not_gt
      have start : Bracket.Divided ⟨a, f a, b, f b⟩ := by
        simpa [Bracket.Divided, zero_rat] using divided
      have known : Bracket.Sampled (total f) ⟨a, f a, b, f b⟩ := ⟨rfl, rfl⟩
      obtain ⟨ending, n, c, d, ended, halving⟩ :=
        bisect_halving tolerance limit limit known start .whole
      rw [Nat.zero_add] at halving
      rw [if_neg left.not_gt, if_neg right.not_gt]
      refine ⟨ending, n, c, d, ended, halving, ?_⟩
      have scale : |(2 : Rat) ^ n| = 2 ^ n := abs_of_pos (pow_pos two_pos n)
      rw [halving.halved.width, abs_div, scale]
    · rw [if_neg left.not_gt, if_pos small]
  · intro unopposed
    exact if_pos (Bool.eq_false_iff.2 unopposed)

/-- The positive root of `x ^ 2 - 2`, from the upper bound `2` down to `0`: after four halvings the
value in the middle is small. -/
theorem bisection_halves_square :
    (0 : Rat) < 1 / 10 ∧ Opposed ((2 : Rat) * 2 - 2) (0 * 0 - 2) ∧
      (1 / 10 : Rat) ≤ |2 * 2 - 2| ∧ (1 / 10 : Rat) ≤ |0 * 0 - 2| ∧
      bisection (total fun x => x * x - 2) 2 0 (1 / 10) 10 =
        .ok (.smallValue (23 / 16) (17 / 256) 5) ∧
      ∃ n c d, Halving (fun x => x * x - 2) 2 0 (1 / 10) 10 n c d (23 / 16) ∧
        |d - c| = 2 / 2 ^ n := by
  have positive : (0 : Rat) < 1 / 10 := by norm_num
  have opposed : Opposed ((2 : Rat) * 2 - 2) (0 * 0 - 2) :=
    .inr (.inr (.inr ⟨by norm_num, by norm_num⟩))
  have left : (1 / 10 : Rat) ≤ |2 * 2 - 2| := by norm_num
  have right : (1 / 10 : Rat) ≤ |0 * 0 - 2| := by norm_num
  have returned : bisection (total fun x => x * x - 2) 2 0 (1 / 10) 10 =
      .ok (.smallValue (23 / 16) (17 / 256) 5) := by
    decide +kernel
  obtain ⟨ending, n, c, d, ended, halving, width⟩ :=
    ((bisection_halves (fun x => x * x - 2) 2 0 positive 10).1 opposed).1 left right
  obtain rfl : ending = .smallValue (23 / 16) (17 / 256) 5 :=
    Except.ok.inj (ended.symm.trans returned)
  have range : |(0 : Rat) - 2| = 2 := by norm_num
  rw [range] at width
  exact ⟨positive, opposed, left, right, returned, n, c, d, halving, width⟩

end SciCalc.Root
