/-
# SciCalc.Proofs.Root.Accepted -- what an accepted point rests on

A method ends at a point because a step was small or because a bracket is narrow.  Over the
doubles a step is small by comparison with a tolerance, which what is no number never passes:
the value and the slope behind a small step are numbers, and the value is finite
(`newtonSteps_smallStep`, `secantSteps_smallStep`).  The values recorded for the ends of a
narrow bracket are those of the function there, and are not both negative, nor both positive
(`bisect_narrow`, `Brent.Visits.straddles`); one of them may be no number.

Infinities do pass (`accepted_infinite`).  Newton's method looks at the value but not at the
slope, the secant method at neither, and the bracketing methods only at the first two values.
A step by an infinite slope has the size zero, and an infinite value has a sign.
-/
import SciCalc.Proofs.Number.Double
import SciCalc.Proofs.Outcome
import SciCalc.Proofs.Root.BrentRun
import SciCalc.Root.Bisection
import SciCalc.Root.Newton

namespace SciCalc.Root

set_option autoImplicit false

open SciCalc.Number

section Steps

variable {α ε : Type} [Scalar α] {f : α → Except ε α} {tolerance : α} {limit : Int}

theorem sample_eq_ok {α ε : Type} {f : α → Except ε α} {x y : α} :
    (sample f x : Except (Failure α ε) α) = .ok y ↔ f x = .ok y := by
  rw [sample]
  cases f x <;> simp

theorem divide_eq_ok {x y z : α} (divided : (divide x y : Except (Failure α ε) α) = .ok z) :
    z = x / y := by
  rw [divide] at divided
  split at divided <;> cases divided
  rfl

/-! ## Small steps -/

/-- A small step of Newton's method leads from a point with a finite value. -/
theorem newtonSteps_smallStep {slope : α → Except (Failure α ε) α} {left done : Nat}
    {x root value steepness : α} {n : Nat}
    (ended : newtonSteps f slope tolerance limit left done x =
      .ok (.smallStep root value steepness n)) :
    ∃ last, f last = .ok value ∧ slope last = .ok steepness ∧ Scalar.isFinite value = true ∧
      root = last - value / steepness ∧ Scalar.abs (root - last) < tolerance := by
  induction left generalizing done x with
  | zero => cases ended
  | succ left ih =>
      rw [newtonSteps] at ended
      obtain ⟨fx, sampled, ended⟩ := bind_eq_ok.1 ended
      dsimp only at ended
      split at ended
      · cases ended
      rename_i finite
      split at ended
      · cases ended
      obtain ⟨dfx, slopes, ended⟩ := bind_eq_ok.1 ended
      split at ended
      · cases ended
      obtain ⟨quotient, divided, ended⟩ := bind_eq_ok.1 ended
      obtain rfl := divide_eq_ok divided
      split at ended
      · rename_i small
        cases ended
        exact ⟨x, sample_eq_ok.1 sampled, slopes, by simpa using finite, rfl, small⟩
      · exact ih ended

/-- A small step of the secant method leads from its later point along the line through two. -/
theorem secantSteps_smallStep {left done : Nat} {x₀ f₀ x₁ root value steepness : α} {n : Nat}
    (ended : secantSteps f tolerance limit left done x₀ f₀ x₁ =
      .ok (.smallStep root value steepness n)) :
    ∃ before valueBefore last, f last = .ok value ∧ steepness = value - valueBefore ∧
      root = last - value * (last - before) / steepness ∧
      Scalar.abs (root - last) < tolerance := by
  induction left generalizing done x₀ f₀ x₁ with
  | zero => cases ended
  | succ left ih =>
      rw [secantSteps] at ended
      obtain ⟨f₁, sampled, ended⟩ := bind_eq_ok.1 ended
      dsimp only at ended
      split at ended
      · cases ended
      split at ended
      · cases ended
      obtain ⟨quotient, divided, ended⟩ := bind_eq_ok.1 ended
      obtain rfl := divide_eq_ok divided
      split at ended
      · rename_i small
        cases ended
        exact ⟨x₀, f₀, x₁, sample_eq_ok.1 sampled, rfl, rfl, small⟩
      · exact ih ended

/-! ## Narrow brackets -/

/-- The values recorded for the ends of a bracket are those of the function there. -/
def Bracket.Sampled (f : α → Except ε α) (k : Bracket α) : Prop :=
  f k.a = .ok k.fa ∧ f k.b = .ok k.fb

/-- Exactly one of the values recorded for the ends of a bracket is negative. -/
def Bracket.Divided (k : Bracket α) : Prop := ¬ (k.fa < 0.0 ↔ k.fb < 0.0)

theorem Bracket.Sampled.halve {k : Bracket α} (known : k.Sampled f) {fm : α}
    (sampled : f k.middle = .ok fm) : (k.halve fm).Sampled f := by
  rw [Bracket.halve]
  split
  · exact ⟨known.1, sampled⟩
  · exact ⟨sampled, known.2⟩

/-- The half that is kept has the sign change. -/
theorem Bracket.Divided.halve {k : Bracket α} (divided : k.Divided) (fm : α) :
    (k.halve fm).Divided := by
  rw [Bracket.halve]
  split
  · rename_i differ
    simpa [Bracket.Divided] using differ
  · rename_i same
    have equal : k.fa < 0.0 ↔ fm < 0.0 := by simpa using same
    intro differ
    exact divided (equal.trans differ)

theorem bisect_narrow {left done : Nat} {first k : Bracket α} {root : α} {n : Nat}
    (known : first.Sampled f) (divided : first.Divided)
    (ended : bisect f tolerance limit left done first = .ok (.narrow root k n)) :
    k.Sampled f ∧ k.Divided := by
  induction left generalizing done first with
  | zero => cases ended
  | succ left ih =>
      rw [bisect] at ended
      obtain ⟨fm, sampled, ended⟩ := bind_eq_ok.1 ended
      split at ended
      · cases ended
      split at ended
      · cases ended
        exact ⟨known, divided⟩
      · exact ih (known.halve (sample_eq_ok.1 sampled)) (divided.halve fm) ended

end Steps

/-! ## The bracket of Brent's method -/

/-- Values that are not on one side of zero. -/
def Apart (y z : Float) : Prop := ¬ (0.0 < y ∧ 0.0 < z) ∧ ¬ (y < 0.0 ∧ z < 0.0)

theorem Apart.symm {y z : Float} (apart : Apart y z) : Apart z y :=
  ⟨fun above => apart.1 above.symm, fun below => apart.2 below.symm⟩

/-- A value on the side of one of two values that lie apart is apart from the other. -/
theorem Apart.of_oneSided {y z w : Float} (apart : Apart y z)
    (oneSided : (0.0 < w ∧ 0.0 < z) ∨ (w < 0.0 ∧ z < 0.0)) : Apart w y := by
  rcases oneSided with ⟨above, positive⟩ | ⟨below, negative⟩
  · exact ⟨fun both => apart.1 ⟨both.2, positive⟩,
      fun both => not_negative_of_positive above both.1⟩
  · exact ⟨fun both => not_negative_of_positive both.1 below,
      fun both => apart.2 ⟨both.2, negative⟩⟩

/-- Values that enclose a root are apart, and only one is negative if neither is zero. -/
theorem encloses_cases {y z : Float} (root : encloses y z = true) :
    (y == 0.0) = true ∨ (z == 0.0) = true ∨ ¬ (y < 0.0 ↔ z < 0.0) := by
  have cases : ((y == 0.0) = true ∨ (z == 0.0) = true) ∨
      (decide (y < 0.0) != decide (z < 0.0)) = true := by
    simpa [encloses] using (Bool.and_eq_true_iff.1 root).2
  rcases cases with (left | right) | differ
  · exact .inl left
  · exact .inr (.inl right)
  · exact .inr (.inr (by simpa using differ))

theorem apart_of_encloses {y z : Float} (root : encloses y z = true) : Apart y z := by
  rcases encloses_cases root with left | right | differ
  · exact ⟨fun above => not_positive_of_eq_zero left above.1,
      fun below => not_negative_of_eq_zero left below.1⟩
  · exact ⟨fun above => not_positive_of_eq_zero right above.2,
      fun below => not_negative_of_eq_zero right below.2⟩
  · exact ⟨fun above => differ ⟨fun below => absurd below (not_negative_of_positive above.1),
        fun below => absurd below (not_negative_of_positive above.2)⟩,
      fun below => differ ⟨fun _ => below.2, fun _ => below.1⟩⟩

namespace Brent

variable {ε : Type} {f : Float → Except ε Float} {tolerance : Float} {s t : Brent Float}

theorem oneSided_iff :
    s.oneSided = true ↔ (0.0 < s.fb ∧ 0.0 < s.fc) ∨ (s.fb < 0.0 ∧ s.fc < 0.0) := by
  rw [oneSided, Bool.or_eq_true, decide_eq_true_eq, decide_eq_true_eq]

/-- The values in a state are those of the function at its points, and where those at `b` and
`c` lie on one side of zero, that at `a` does not. -/
structure Straddles (f : Float → Except ε Float) (s : Brent Float) : Prop where
  atA : f s.a = .ok s.fa
  atB : f s.b = .ok s.fb
  atC : f s.c = .ok s.fc
  opposite : s.oneSided = true → Apart s.fb s.fa

theorem Straddles.rebracket (straddles : Straddles f s) :
    Straddles f s.rebracket ∧ Apart s.rebracket.fb s.rebracket.fc := by
  rw [Brent.rebracket]
  split
  · rename_i oneSided
    have apart := straddles.opposite oneSided
    exact ⟨⟨straddles.atA, straddles.atB, straddles.atA, fun _ => apart⟩, apart⟩
  · rename_i twoSided
    rw [oneSided_iff, not_or] at twoSided
    exact ⟨straddles, twoSided⟩

/-- What the tests of an iteration see encloses a root. -/
theorem Straddles.prepare (straddles : Straddles f s) :
    s.prepare.bracket.Sampled f ∧ Apart s.prepare.fb s.prepare.fc := by
  obtain ⟨known, apart⟩ := straddles.rebracket
  rw [Brent.prepare, orient]
  split
  · exact ⟨⟨known.atC, known.atB⟩, apart.symm⟩
  · exact ⟨⟨known.atB, known.atC⟩, apart⟩

/-- The point before the next estimate stays on the side it was on. -/
theorem straddles_advance (known : s.bracket.Sampled f) (apart : Apart s.fb s.fc)
    {d e next value : Float} (sampled : f next = .ok value) :
    Straddles f (s.advance d e next value) where
  atA := known.1
  atB := sampled
  atC := known.2
  opposite oneSided := apart.of_oneSided (oneSided_iff.1 oneSided)

/-- An iteration ends on the bracket that it sees, or takes one more value of the function. -/
theorem round_cases_of_ok {done : Nat} {result : Ending Float ⊕ Brent Float}
    (rounded : round f tolerance done s = .ok result) :
    result = .inl (.narrow s.prepare.b s.prepare.bracket done) ∨
    result = .inl (.smallValue s.prepare.b s.prepare.fb done) ∨
    ∃ d e next value, f next = .ok value ∧ result = .inr (s.prepare.advance d e next value) := by
  rw [round] at rounded
  dsimp only at rounded
  split at rounded
  · cases rounded
    exact .inl rfl
  split at rounded
  · cases rounded
    exact .inr (.inl rfl)
  obtain ⟨⟨d, e⟩, -, rounded⟩ := bind_eq_ok.1 rounded
  obtain ⟨value, sampled, rounded⟩ := bind_eq_ok.1 rounded
  cases rounded
  exact .inr (.inr ⟨d, e, _, value, sample_eq_ok.1 sampled, rfl⟩)

theorem Visits.straddles {first : Brent Float} {done : Nat} (initially : Straddles f first)
    (visited : Visits f tolerance first done s) : Straddles f s := by
  refine visited.keeps (Straddles f) initially fun n s t straddles rounded => ?_
  obtain ⟨known, apart⟩ := straddles.prepare
  rcases round_cases_of_ok rounded with ended | ended | ⟨d, e, next, value, sampled, same⟩
  · cases ended
  · cases ended
  · cases same
    exact straddles_advance known apart sampled

theorem straddles_start {a fa b fb : Float} (left : f a = .ok fa) (right : f b = .ok fb)
    (root : encloses fa fb = true) : Straddles f (start a fa b fb) where
  atA := left
  atB := right
  atC := left
  opposite _ := (apart_of_encloses root).symm

end Brent

/-! ## Endings -/

section Endings

variable {ε : Type} {f : Float → Except ε Float} {tolerance a b root : Float} {limit : Int}
  {k : Bracket Float} {n : Nat}

/-- A step of a size below some tolerance is by a number. -/
theorem not_isNaN_of_step {x step next : Float} (moved : next = x - step)
    (small : (next - x).abs < tolerance) : step.isNaN = false := by
  rw [Bool.eq_false_iff]
  intro none
  refine not_abs_lt_of_isNaN (isNaN_sub_left ?_) small
  rw [moved]
  exact isNaN_sub_right none

theorem bisection_narrow (positive : 0.0 < tolerance)
    (ended : bisection f a b tolerance limit = .ok (.narrow root k n)) :
    k.Sampled f ∧ k.Divided := by
  rw [bisection] at ended
  obtain ⟨fa, left, ended⟩ := bind_eq_ok.1 ended
  obtain ⟨fb, right, ended⟩ := bind_eq_ok.1 ended
  dsimp only at ended
  split at ended
  · cases ended
  rename_i root
  split at ended
  · cases ended
  rename_i largeLeft
  split at ended
  · cases ended
  rename_i largeRight
  refine bisect_narrow ⟨sample_eq_ok.1 left, sample_eq_ok.1 right⟩ ?_ ended
  rcases encloses_cases (by simpa using root) with zero | zero | differ
  · exact absurd (abs_lt_of_eq_zero zero positive) largeLeft
  · exact absurd (abs_lt_of_eq_zero zero positive) largeRight
  · exact differ

theorem brent_narrow (ended : brent f a b tolerance limit = .ok (.narrow root k n)) :
    k.Sampled f ∧ Apart k.fa k.fb := by
  rw [brent] at ended
  obtain ⟨fa, left, ended⟩ := bind_eq_ok.1 ended
  obtain ⟨fb, right, ended⟩ := bind_eq_ok.1 ended
  dsimp only at ended
  split at ended
  · cases ended
  rename_i root
  split at ended
  · cases ended
  have initially := Brent.straddles_start (sample_eq_ok.1 left) (sample_eq_ok.1 right)
    (by simpa using root)
  have start : Brent.Visits f tolerance (.start a fa b fb) 0 (.start a fa b fb) := .zero
  rcases Brent.iterate_cases limit limit.toNat start with
    ⟨m, s, ending, -, visited, rounded, iterated⟩ | ⟨m, s, cause, -, -, -, failed⟩ |
      ⟨s, -, failed⟩
  · rw [iterated] at ended
    cases ended
    obtain ⟨known, apart⟩ := (Brent.Visits.straddles initially visited).prepare
    rcases Brent.round_cases_of_ok rounded with narrow | small | ⟨d, e, next, value, -, other⟩
    · cases narrow
      exact ⟨known, apart⟩
    · cases small
    · cases other
  · rw [failed] at ended
    cases ended
  · rw [failed] at ended
    cases ended

end Endings

/-- **A small step rests on numbers, a narrow bracket on the function's values.**  A small step
of Newton's method or the secant method rests on a finite value of the function and a slope that
is a number.  The values recorded for a narrow bracket are the function's at its ends: exactly
one of them negative after bisection, not both on one side of zero in Brent's method.  Whichever
is not negative may be no number. -/
theorem accepted_on_numbers {ε : Type} (f : Float → Except ε Float) {tolerance : Float}
    (positive : 0.0 < tolerance) (limit : Int) :
    (∀ slope x root value steepness n,
      newton f slope x tolerance limit = .ok (.smallStep root value steepness n) →
        ∃ last, f last = .ok value ∧ slope last = .ok steepness ∧
          value.isFinite = true ∧ steepness.isNaN = false) ∧
    (∀ x₀ x₁ root value steepness n,
      secant f x₀ x₁ tolerance limit = .ok (.smallStep root value steepness n) →
        ∃ last, f last = .ok value ∧ value.isFinite = true ∧ steepness.isNaN = false) ∧
    (∀ a b root k n, bisection f a b tolerance limit = .ok (.narrow root k n) →
      f k.a = .ok k.fa ∧ f k.b = .ok k.fb ∧ ¬ (k.fa < 0.0 ↔ k.fb < 0.0)) ∧
    ∀ a b root k n, brent f a b tolerance limit = .ok (.narrow root k n) →
      f k.a = .ok k.fa ∧ f k.b = .ok k.fb ∧
        ¬ (0.0 < k.fa ∧ 0.0 < k.fb) ∧ ¬ (k.fa < 0.0 ∧ k.fb < 0.0) := by
  refine ⟨fun slope x root value steepness n ended => ?_,
    fun x₀ x₁ root value steepness n ended => ?_, fun a b root k n ended => ?_,
    fun a b root k n ended => ?_⟩
  · obtain ⟨last, sampled, slopes, finite, moved, small⟩ := newtonSteps_smallStep ended
    refine ⟨last, sampled, slopes, finite, Bool.eq_false_iff.2 fun none => ?_⟩
    exact Bool.eq_false_iff.1 (not_isNaN_of_step moved small) (isNaN_div_right none)
  · rw [secant] at ended
    obtain ⟨f₀, -, ended⟩ := bind_eq_ok.1 ended
    obtain ⟨before, valueBefore, last, sampled, rise, moved, small⟩ :=
      secantSteps_smallStep ended
    have number := Bool.eq_false_iff.1 (not_isNaN_of_step moved small)
    refine ⟨last, sampled, Bool.of_not_eq_false fun infinite => ?_,
      Bool.eq_false_iff.2 fun none => number (isNaN_div_right none)⟩
    -- An infinite value makes its difference from any other infinite as well.
    refine number (isNaN_div (not_isFinite_mul_left infinite) ?_)
    rw [rise]
    exact not_isFinite_sub_left infinite
  · obtain ⟨known, divided⟩ := bisection_narrow positive ended
    exact ⟨known.1, known.2, divided⟩
  · obtain ⟨known, apart⟩ := brent_narrow ended
    exact ⟨known.1, known.2, apart⟩

/-- Infinities are no such obstacle.  The secant method steps by an infinite slope to where it
is already, at the value one; so does Newton's method when its slope is infinite.  Bisection
and Brent's method end on a bracket where one recorded value is infinite. -/
theorem accepted_infinite :
    let infinity : Float := 1.0 / 0.0
    let pole (x : Float) : Except Unit Float := .ok (if x == 0.0 then infinity else 1.0)
    let jump (x : Float) : Except Unit Float :=
      .ok (if x == 0.0 then -10.0 else if x == 8.0 then 10.0 else infinity)
    secant pole 0.0 1.0 1e-8 100 = .ok (.smallStep 1.0 1.0 (-infinity) 1) ∧
      newton pole (fun _ => .ok infinity) 1.0 1e-8 100 =
        .ok (.smallStep 1.0 1.0 infinity 1) ∧
      bisection jump 0.0 8.0 5.0 100 =
        .ok (.narrow 2.0 ⟨0.0, -10.0, 4.0, infinity⟩ 2) ∧
      brent jump 0.0 8.0 5.0 100 = .ok (.narrow 0.0 ⟨0.0, -10.0, 4.0, infinity⟩ 1) := by
  decide +kernel

/-- The secant method at `pole` with one value infinite: the step rests on the finite value one
and on a slope that is a number, though an infinite one. -/
theorem accepted_on_numbers_secant :
    let pole (x : Float) : Except Unit Float := .ok (if x == 0.0 then 1.0 / 0.0 else 1.0)
    secant pole 0.0 1.0 1e-8 100 = .ok (.smallStep 1.0 1.0 (-(1.0 / 0.0)) 1) ∧
      ∃ last, pole last = .ok 1.0 ∧ (1.0 : Float).isFinite = true ∧
        (-(1.0 / 0.0) : Float).isNaN = false := by
  intro pole
  have ended : secant pole 0.0 1.0 1e-8 100 = .ok (.smallStep 1.0 1.0 (-(1.0 / 0.0)) 1) := by
    decide +kernel
  exact ⟨ended, (accepted_on_numbers pole (by decide +kernel) 100).2.1 _ _ _ _ _ _ ended⟩

end SciCalc.Root
