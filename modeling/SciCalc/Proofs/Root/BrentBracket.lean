/-
# SciCalc.Proofs.Root.BrentBracket -- Brent's method keeps its bracket

Over the rationals every iteration stays inside the bracket of the one before:

* the acceptance test keeps an interpolated step between zero and three quarters of
  the way from `b` to `c`, whichever way that is (`accepted_within`);
* a step lengthened to the resolution goes toward `c`, and the resolution is less than half of
  the way, because the bracket would be narrow enough otherwise (`target_within`);
* so the next estimate lies between `b` and `c`, and the new bracket reaches from it either to
  `c` or, when it has come to the side of `c`, back to `b` (`Ready`, `Within`).

That the divisors are not zero belongs to the same argument: the value at `a` is greater in
size than the value at `b`, which is not above the value at `c` in size and not below the
tolerance.
-/
import Mathlib.Algebra.Order.Field.Basic
import Mathlib.Order.Interval.Set.UnorderedInterval
import Mathlib.Tactic.Linarith
import SciCalc.Proofs.Number.Rational
import SciCalc.Proofs.Root.BrentRun

namespace SciCalc.Root

set_option autoImplicit false

open SciCalc.Number

namespace Brent

/-! ## An iteration over the rationals -/

section Rational

variable {ε : Type} (s : Brent Rat)

theorem oneSided_rat :
    s.oneSided = true ↔ (0 < s.fb ∧ 0 < s.fc) ∨ (s.fb < 0 ∧ s.fc < 0) := by
  have unfolded : s.oneSided =
      (decide ((0.0 : Rat) < s.fb ∧ (0.0 : Rat) < s.fc) ||
        decide (s.fb < (0.0 : Rat) ∧ s.fc < (0.0 : Rat))) := rfl
  rw [unfolded, zero_rat, Bool.or_eq_true, decide_eq_true_eq, decide_eq_true_eq]

theorem orient_rat :
    s.orient = if |s.fc| < |s.fb| then
      { s with a := s.b, fa := s.fb, b := s.c, fb := s.fc, c := s.b, fc := s.fb } else s := by
  rw [← abs_rat, ← abs_rat]
  rfl

theorem half_rat : s.half = (s.c - s.b) / 2 := by
  show (s.c - s.b) / (2.0 : Rat) = _
  norm_num

theorem unitRoundoff_pos : (0 : Rat) < unitRoundoff := by
  show (0 : Rat) < 2.220446049250313080847263336181640625e-16
  norm_num

theorem resolution_rat (tolerance : Rat) :
    s.resolution tolerance = 2 * unitRoundoff * |s.b| + tolerance / 2 := by
  rw [← abs_rat]
  show (2.0 : Rat) * unitRoundoff * Scalar.abs s.b + tolerance / (2.0 : Rat) = _
  norm_num

theorem resolution_pos {tolerance : Rat} (positive : 0 < tolerance) :
    0 < s.resolution tolerance := by
  have : 0 ≤ 2 * unitRoundoff * |s.b| :=
    mul_nonneg (mul_nonneg two_pos.le unitRoundoff_pos.le) (abs_nonneg s.b)
  rw [resolution_rat]
  linarith

theorem target_rat (resolution d : Rat) :
    s.target resolution d =
      s.b + if resolution < |d| then d
        else if s.half < 0 then -|resolution| else |resolution| := by
  rw [← withSign_rat, ← abs_rat]
  rfl

theorem settleSign_nonneg (p q : Rat) : 0 ≤ (settleSign p q).1 := by
  have unfolded : settleSign p q = if (0.0 : Rat) < p then (p, -q) else (-p, q) := rfl
  rw [unfolded, zero_rat]
  split
  · rename_i positive
    exact positive.le
  · rename_i nonpositive
    simpa using nonpositive

/-- The interpolation divides by the values at `a` and `c` only. -/
theorem interpolate_ok (fa : s.fa ≠ 0) (fc : s.fc ≠ 0) :
    ∃ p q : Rat, (s.interpolate : Except (Failure Rat ε) (Rat × Rat)) = .ok (p, q) := by
  rw [interpolate, divide_rat fa, divide_rat fc, divide_rat fc]
  simp only [bind, Except.bind]
  split
  · exact ⟨_, _, rfl⟩
  · exact ⟨_, _, rfl⟩

theorem lesser_le (x y : Rat) : lesser x y ≤ x := by
  have unfolded : lesser x y = if y < x then y else x := rfl
  rw [unfolded]
  split
  · rename_i below
    exact below.le
  · exact le_refl x

/-- The part of the acceptance test that concerns the bracket: it keeps the step `p / q`
between zero and three quarters of the way from `b` to `c`. -/
theorem accepted_within {p q resolution half : Rat} (numerator : 0 ≤ p)
    (accepted : 2 * p < 3 * half * q - |resolution * q|) :
    q ≠ 0 ∧ p / q ∈ Set.uIcc 0 (2 * half) := by
  -- The numerator is not negative: the test only holds where `half` and `q` have one sign.
  have size : 0 ≤ |resolution * q| := abs_nonneg _
  have product : 0 < half * q := by nlinarith only [numerator, accepted, size]
  obtain ⟨halfPos, qPos⟩ | ⟨halfNeg, qNeg⟩ := mul_pos_iff.1 product
  · refine ⟨qPos.ne', Set.mem_uIcc.2 (.inl ⟨div_nonneg numerator qPos.le, ?_⟩)⟩
    rw [div_le_iff₀ qPos]
    linarith
  · refine ⟨qNeg.ne, Set.mem_uIcc.2 (.inr ⟨?_, div_nonpos_of_nonneg_of_nonpos numerator qNeg.le⟩)⟩
    rw [le_div_iff_of_neg qNeg]
    linarith

theorem half_within : s.half ∈ Set.uIcc 0 (s.c - s.b) := by
  rw [half_rat, Set.mem_uIcc]
  obtain left | right := le_total 0 (s.c - s.b)
  · exact .inl ⟨by linarith, by linarith⟩
  · exact .inr ⟨by linarith, by linarith⟩

/-- **A step never leaves the bracket**, and no divisor of it is zero. -/
theorem stride_within (resolution : Rat) (fc : s.fc ≠ 0) :
    ∃ d e : Rat, (s.stride resolution : Except (Failure Rat ε) (Rat × Rat)) = .ok (d, e) ∧
      d ∈ Set.uIcc 0 (s.c - s.b) := by
  rw [stride, abs_rat, abs_rat, abs_rat]
  split
  · rename_i trusted
    have fa : s.fa ≠ 0 := abs_pos.1 ((abs_nonneg s.fb).trans_lt trusted.2)
    obtain ⟨p, q, interpolated⟩ := interpolate_ok (ε := ε) s fa fc
    have numerator := settleSign_nonneg p q
    rw [interpolated]
    simp only [bind, Except.bind]
    generalize settleSign p q = settled at numerator ⊢
    obtain ⟨p, q⟩ := settled
    split
    · rename_i accepted
      have below := accepted.trans_le (lesser_le _ _)
      rw [abs_rat, show (2.0 : Rat) = 2 by norm_num, show (3.0 : Rat) = 3 by norm_num] at below
      obtain ⟨nonzero, within⟩ := accepted_within numerator below
      rw [divide_rat nonzero]
      rw [half_rat, mul_div_cancel₀ _ (two_ne_zero)] at within
      exact ⟨_, _, rfl, within⟩
    · exact ⟨_, _, rfl, half_within s⟩
  · exact ⟨_, _, rfl, half_within s⟩

/-- A step shorter than the resolution is lengthened to it, and the resolution is less than
half of the way, so that the next estimate lies in the bracket in either case. -/
theorem target_within {resolution d : Rat} (positive : 0 < resolution)
    (wide : resolution < |s.half|) (step : d ∈ Set.uIcc 0 (s.c - s.b)) :
    s.target resolution d ∈ Set.uIcc s.b s.c := by
  rw [target_rat, Set.mem_uIcc]
  rw [Set.mem_uIcc] at step
  rw [half_rat] at wide ⊢
  split
  · obtain ⟨above, below⟩ | ⟨above, below⟩ := step
    · exact .inl ⟨by linarith, by linarith⟩
    · exact .inr ⟨by linarith, by linarith⟩
  · rw [abs_of_pos positive]
    split
    · rename_i leftward
      rw [abs_of_neg leftward] at wide
      exact .inr ⟨by linarith, by linarith⟩
    · rename_i rightward
      rw [abs_of_nonneg (not_lt.1 rightward)] at wide
      exact .inl ⟨by linarith, by linarith⟩

end Rational

/-! ## What an iteration relies on and what it leaves -/

/-- The values that a state records are those of the function at its points. -/
structure Recorded (g : Rat → Rat) (s : Brent Rat) : Prop where
  valueA : s.fa = g s.a
  valueB : s.fb = g s.b
  valueC : s.fc = g s.c

/-- The bracket as the tests of an iteration see it. -/
structure Bracketing (g : Rat → Rat) (s : Brent Rat) : Prop extends Recorded g s where
  notBothPositive : ¬ (0 < s.fb ∧ 0 < s.fc)
  notBothNegative : ¬ (s.fb < 0 ∧ s.fc < 0)
  better : |s.fb| ≤ |s.fc|

/-- What the end of an iteration leaves for the next one: where `b` has come to the side of
`c`, the estimate before it is on the other side. -/
structure Ready (g : Rat → Rat) (s : Brent Rat) : Prop extends Recorded g s where
  turned : s.oneSided = true → ¬ (0 < s.fb ∧ 0 < s.fa) ∧ ¬ (s.fb < 0 ∧ s.fa < 0)

/-- All three points lie between two numbers. -/
structure Within (lower upper : Rat) (s : Brent Rat) : Prop where
  a : s.a ∈ Set.uIcc lower upper
  b : s.b ∈ Set.uIcc lower upper
  c : s.c ∈ Set.uIcc lower upper

section Preparation

variable {g : Rat → Rat} {s : Brent Rat} {lower upper : Rat}

theorem Ready.rebracket (ready : Ready g s) :
    Recorded g s.rebracket ∧ ¬ (0 < s.rebracket.fb ∧ 0 < s.rebracket.fc) ∧
      ¬ (s.rebracket.fb < 0 ∧ s.rebracket.fc < 0) := by
  rw [Brent.rebracket]
  split
  · rename_i oneSided
    exact ⟨⟨ready.valueA, ready.valueB, ready.valueA⟩, ready.turned oneSided⟩
  · rename_i apart
    rw [oneSided_rat, not_or] at apart
    exact ⟨ready.toRecorded, apart⟩

/-- Rebracketing and orientation make of what an iteration leaves what the next one relies
on. -/
theorem Ready.prepare (ready : Ready g s) : Bracketing g s.prepare := by
  obtain ⟨recorded, notPositive, notNegative⟩ := ready.rebracket
  rw [Brent.prepare, orient_rat]
  split
  · rename_i worse
    exact
      { valueA := recorded.valueB
        valueB := recorded.valueC
        valueC := recorded.valueB
        notBothPositive := fun both => notPositive both.symm
        notBothNegative := fun both => notNegative both.symm
        better := worse.le }
  · rename_i better
    exact
      { toRecorded := recorded
        notBothPositive := notPositive
        notBothNegative := notNegative
        better := not_lt.1 better }

theorem Within.prepare (within : Within lower upper s) : Within lower upper s.prepare := by
  have rebracketed : Within lower upper s.rebracket := by
    rw [Brent.rebracket]
    split
    · exact ⟨within.a, within.b, within.a⟩
    · exact within
  rw [Brent.prepare, orient_rat]
  split
  · exact ⟨rebracketed.b, rebracketed.c, rebracketed.b⟩
  · exact rebracketed

/-- The interval between the points that enclose the root. -/
theorem Within.range (within : Within lower upper s) :
    Set.uIcc s.b s.c ⊆ Set.uIcc lower upper :=
  Set.uIcc_subset_uIcc within.b within.c

theorem Within.widen {lower' upper' : Rat} (within : Within lower upper s)
    (wider : Set.uIcc lower upper ⊆ Set.uIcc lower' upper') : Within lower' upper' s where
  a := wider within.a
  b := wider within.b
  c := wider within.c

/-- A step to a point of the bracket leaves the next iteration what it needs. -/
theorem Bracketing.advance (bracketing : Bracketing g s) (d e : Rat) (next : Rat) :
    Ready g (s.advance d e next (g next)) where
  valueA := bracketing.valueB
  valueB := rfl
  valueC := bracketing.valueC
  turned := by
    intro oneSided
    have positive := bracketing.notBothPositive
    have negative := bracketing.notBothNegative
    rw [oneSided_rat] at oneSided
    simp only [Brent.advance] at oneSided ⊢
    constructor
    · rintro ⟨nextPos, lastPos⟩
      obtain both | both := oneSided
      · exact positive ⟨lastPos, both.2⟩
      · exact absurd both.1 nextPos.le.not_gt
    · rintro ⟨nextNeg, lastNeg⟩
      obtain both | both := oneSided
      · exact absurd both.1 nextNeg.le.not_gt
      · exact negative ⟨lastNeg, both.2⟩

theorem within_advance {d e next value : Rat} (inside : next ∈ Set.uIcc s.b s.c) :
    Within s.b s.c (s.advance d e next value) where
  a := Set.left_mem_uIcc
  b := inside
  c := Set.right_mem_uIcc

end Preparation

/-! ## One iteration -/

section Round

variable {ε : Type} {f : Rat → Except ε Rat} {g : Rat → Rat} {tolerance : Rat} {s : Brent Rat}

/-- An iteration with bracket `s`, after `done` others, ends the run: the bracket is narrow, or
the value at the best estimate small. -/
def Settled (g : Rat → Rat) (tolerance : Rat) (done : Nat) (s : Brent Rat)
    (ending : Ending Rat) : Prop :=
  (ending = .narrow s.b s.bracket done ∧ |s.c - s.b| / 2 ≤ s.resolution tolerance) ∨
    (ending = .smallValue s.b s.fb done ∧ |g s.b| < tolerance)

/-- **What an iteration does**, if the function has values on its bracket: it ends the run or
steps to a point of the bracket. -/
theorem round_cases (done : Nat) (positive : 0 < tolerance) (bracketing : Bracketing g s.prepare)
    (values : ∀ x ∈ Set.uIcc s.prepare.b s.prepare.c, f x = .ok (g x)) :
    (∃ ending, round f tolerance done s = .ok (.inl ending) ∧
      Settled g tolerance done s.prepare ending) ∨
    ∃ d e, ∃ next ∈ Set.uIcc s.prepare.b s.prepare.c,
      round f tolerance done s = .ok (.inr (s.prepare.advance d e next (g next))) := by
  rw [round]
  generalize s.prepare = p at bracketing values
  have resolutionPos := resolution_pos p positive
  simp only [abs_rat]
  split
  · rename_i narrow
    rw [half_rat, abs_div, abs_two] at narrow
    exact .inl ⟨_, rfl, .inl ⟨rfl, narrow⟩⟩
  · rename_i wide
    split
    · rename_i small
      rw [bracketing.valueB] at small
      exact .inl ⟨_, rfl, .inr ⟨rfl, small⟩⟩
    · rename_i large
      -- `b` is the better end and not good enough, so the value at `c` is not zero.
      have fc : p.fc ≠ 0 :=
        abs_pos.1 (positive.trans_le ((not_lt.1 large).trans bracketing.better))
      obtain ⟨d, e, step, within⟩ := stride_within (ε := ε) p (p.resolution tolerance) fc
      have inside := target_within p resolutionPos (not_le.1 wide) within
      refine .inr ⟨d, e, _, inside, ?_⟩
      rw [step]
      simp only [bind, Except.bind]
      rw [sample, values _ inside]
      rfl

section Consequences

variable {done : Nat} (positive : 0 < tolerance) (bracketing : Bracketing g s.prepare)
  (values : ∀ x ∈ Set.uIcc s.prepare.b s.prepare.c, f x = .ok (g x))

include positive bracketing values

theorem round_ended {ending : Ending Rat}
    (ended : round f tolerance done s = .ok (.inl ending)) :
    Settled g tolerance done s.prepare ending := by
  obtain ⟨found, ends, settled⟩ | ⟨d, e, next, -, steps⟩ :=
    round_cases done positive bracketing values
  · cases ended.symm.trans ends
    exact settled
  · cases ended.symm.trans steps

theorem round_ne_error (cause : Failure Rat ε) : round f tolerance done s ≠ .error cause := by
  intro failed
  obtain ⟨found, ends, -⟩ | ⟨d, e, next, -, steps⟩ := round_cases done positive bracketing values
  · cases failed.symm.trans ends
  · cases failed.symm.trans steps

/-- The next iteration has what it needs, and all its points lie in the bracket of this one. -/
theorem round_next {t : Brent Rat} (continued : round f tolerance done s = .ok (.inr t)) :
    Ready g t ∧ Within s.prepare.b s.prepare.c t := by
  obtain ⟨found, ends, -⟩ | ⟨d, e, next, inside, steps⟩ :=
    round_cases done positive bracketing values
  · cases continued.symm.trans ends
  · cases continued.symm.trans steps
    exact ⟨bracketing.advance d e next, within_advance inside⟩

end Consequences

end Round

/-! ## A run -/

section Run

variable {ε : Type} {f : Rat → Except ε Rat} {g : Rat → Rat} {tolerance a b : Rat}

/-- The first iteration has what it needs if the bounds enclose a root. -/
theorem ready_start (opposed : Opposed (g a) (g b)) : Ready g (start a (g a) b (g b)) where
  valueA := rfl
  valueB := rfl
  valueC := rfl
  turned := by
    intro oneSided
    rw [oneSided_rat] at oneSided
    simp only [start] at oneSided
    rw [Opposed] at opposed
    grind

theorem within_start (fa fb : Rat) : Within a b (start a fa b fb) where
  a := Set.left_mem_uIcc
  b := Set.right_mem_uIcc
  c := Set.left_mem_uIcc

theorem Visits.ready {done : Nat} {s : Brent Rat} (positive : 0 < tolerance)
    (opposed : Opposed (g a) (g b)) (values : ∀ x ∈ Set.uIcc a b, f x = .ok (g x))
    (visited : Visits f tolerance (start a (g a) b (g b)) done s) :
    Ready g s ∧ Within a b s := by
  refine visited.keeps (fun s => Ready g s ∧ Within a b s)
    ⟨ready_start opposed, within_start _ _⟩ ?_
  rintro n s t ⟨ready, within⟩ continued
  have range := within.prepare.range
  obtain ⟨readyNext, withinNext⟩ :=
    round_next positive ready.prepare (fun x inside => values x (range inside)) continued
  exact ⟨readyNext, withinNext.widen range⟩

/-- A run in which every evaluation succeeds ends at one of the visited states, or has used
up all iterations. -/
theorem iterate_outcome (limit : Nat) (positive : 0 < tolerance)
    (opposed : Opposed (g a) (g b)) (values : ∀ x ∈ Set.uIcc a b, f x = .ok (g x)) :
    (∃ n s ending, n < limit ∧ Visits f tolerance (start a (g a) b (g b)) n s ∧
      Settled g tolerance n s.prepare ending ∧
      iterate f tolerance limit limit 0 (start a (g a) b (g b)) = .ok ending) ∨
    ∃ s, Visits f tolerance (start a (g a) b (g b)) limit s ∧
      iterate f tolerance limit limit 0 (start a (g a) b (g b)) =
        .error (.trouble (.notConverged .brent limit)) := by
  have onRange : ∀ n s, Visits f tolerance (start a (g a) b (g b)) n s →
      Bracketing g s.prepare ∧ ∀ x ∈ Set.uIcc s.prepare.b s.prepare.c, f x = .ok (g x) := by
    intro n s visited
    obtain ⟨ready, within⟩ := visited.ready positive opposed values
    exact ⟨ready.prepare, fun x inside => values x (within.prepare.range inside)⟩
  have begun : Visits f tolerance (start a (g a) b (g b)) 0 (start a (g a) b (g b)) := .zero
  have run := iterate_cases limit limit begun
  rw [Nat.zero_add] at run
  obtain ⟨n, s, ending, before, visited, ended, result⟩ |
    ⟨n, s, cause, -, visited, failed, -⟩ | exhausted := run
  · obtain ⟨bracketing, defined⟩ := onRange n s visited
    have settled := round_ended positive bracketing defined ended
    exact .inl ⟨n, s, ending, before, visited, settled, result⟩
  · obtain ⟨bracketing, defined⟩ := onRange n s visited
    exact absurd failed (round_ne_error positive bracketing defined cause)
  · exact .inr exhausted

end Run

end Brent

/-! ## The method -/

section Method

variable {ε : Type} {f : Rat → Except ε Rat} {g : Rat → Rat} {tolerance a b : Rat}

theorem brent_opposed (tolerance : Rat) (limit : Nat) (left : f a = .ok (g a))
    (right : f b = .ok (g b))
    (opposed : Opposed (g a) (g b)) :
    brent f a b tolerance limit =
      if g a = 0 then .ok (.bound a (g a))
      else Brent.iterate f tolerance limit limit 0 (Brent.start a (g a) b (g b)) := by
  have encloses := (encloses_rat (g a) (g b)).2 opposed
  rw [brent, sample, sample, left, right]
  simp only [bind, Except.bind, encloses, Bool.not_true, Bool.false_eq_true, if_false, zero_rat,
    beq_iff_eq, Int.toNat_natCast]
  rfl

theorem brent_unopposed (tolerance : Rat) (limit : Nat) (left : f a = .ok (g a))
    (right : f b = .ok (g b))
    (opposed : ¬ Opposed (g a) (g b)) :
    brent f a b tolerance limit = .error (.trouble (.noSignChange a (g a) b (g b))) := by
  have encloses := Bool.eq_false_iff.2 (mt (encloses_rat (g a) (g b)).1 opposed)
  rw [brent, sample, sample, left, right]
  simp only [bind, Except.bind, encloses]
  rfl

/-- How the method ends on a function that has values between the bounds: at the bound `a`, at
a state that it visits, or with all iterations used up. -/
theorem brent_outcome (limit : Nat) (positive : 0 < tolerance) (opposed : Opposed (g a) (g b))
    (values : ∀ x ∈ Set.uIcc a b, f x = .ok (g x)) :
    (g a = 0 ∧ brent f a b tolerance limit = .ok (.bound a (g a))) ∨
    (g a ≠ 0 ∧ ∃ n s ending, n < limit ∧
      Brent.Visits f tolerance (Brent.start a (g a) b (g b)) n s ∧
      Brent.Settled g tolerance n s.prepare ending ∧ brent f a b tolerance limit = .ok ending) ∨
    (g a ≠ 0 ∧ ∃ s, Brent.Visits f tolerance (Brent.start a (g a) b (g b)) limit s ∧
      brent f a b tolerance limit = .error (.trouble (.notConverged .brent limit))) := by
  have result := brent_opposed tolerance limit (values a Set.left_mem_uIcc)
    (values b Set.right_mem_uIcc) opposed
  by_cases zero : g a = 0
  · rw [if_pos zero] at result
    exact .inl ⟨zero, result⟩
  · rw [if_neg zero] at result
    rw [result]
    obtain ended | exhausted := Brent.iterate_outcome limit positive opposed values
    · exact .inr (.inl ⟨zero, ended⟩)
    · exact .inr (.inr ⟨zero, exhausted⟩)

end Method

/-- A function whose evaluation never fails. -/
def total (f : Rat → Rat) (x : Rat) : Except Unit Rat := .ok (f x)

/-- The same function, except that its evaluation fails at one point. -/
def refusing (f : Rat → Rat) (point x : Rat) : Except Unit Rat :=
  if x = point then .error () else .ok (f x)

/-- Brent's method evaluates the function at a point: if the evaluation fails there, the method
fails with it. -/
def BrentEvaluates (f : Rat → Rat) (a b tolerance : Rat) (limit : Int) (point : Rat) : Prop :=
  brent (refusing f point) a b tolerance limit = .error (.sample ())

/-- The value at a point where the method does not evaluate the function is of no account. -/
theorem brent_refusing {f : Rat → Rat} {a b tolerance point : Rat} {limit : Int}
    (unevaluated : ¬ BrentEvaluates f a b tolerance limit point) :
    brent (refusing f point) a b tolerance limit = brent (total f) a b tolerance limit := by
  have extension : ∀ x y, refusing f point x = .ok y → total f x = .ok y := by
    intro x y value
    rw [refusing] at value
    split at value
    · cases value
    · exact value
  obtain ⟨cause, failed⟩ | same := brent_extension extension a b tolerance limit
  · exact absurd failed unevaluated
  · exact same.symm

/-- **Brent's method keeps its bracket**, whatever the function, the bounds, the tolerance above
zero and the number of iterations allowed.  It evaluates the function between the bounds only;
every iteration sees a root enclosed, in an interval inside that of the one before; and it ends
at its best estimate or when all iterations are used up.  Bounds that do not enclose a root are
refused. -/
theorem brent_keeps_bracket (f : Rat → Rat) (a b : Rat) {tolerance : Rat}
    (positive : 0 < tolerance) (limit : Nat) :
    (Opposed (f a) (f b) →
      (∀ x, BrentEvaluates f a b tolerance limit x → x ∈ Set.uIcc a b) ∧
      (∀ n s, Brent.Visits (total f) tolerance (Brent.start a (f a) b (f b)) n s →
        Brent.Bracketing f s.prepare ∧
        Set.uIcc s.prepare.b s.prepare.c ⊆ Set.uIcc a b ∧
        ∀ t, Brent.round (total f) tolerance n s = .ok (.inr t) →
          Set.uIcc t.prepare.b t.prepare.c ⊆ Set.uIcc s.prepare.b s.prepare.c) ∧
      ((f a = 0 ∧ brent (total f) a b tolerance limit = .ok (.bound a (f a))) ∨
        (f a ≠ 0 ∧ ∃ n s ending, n < limit ∧
          Brent.Visits (total f) tolerance (Brent.start a (f a) b (f b)) n s ∧
          Brent.Settled f tolerance n s.prepare ending ∧
          brent (total f) a b tolerance limit = .ok ending) ∨
        (f a ≠ 0 ∧ ∃ s,
          Brent.Visits (total f) tolerance (Brent.start a (f a) b (f b)) limit s ∧
          brent (total f) a b tolerance limit =
            .error (.trouble (.notConverged .brent limit))))) ∧
    (¬ Opposed (f a) (f b) →
      brent (total f) a b tolerance limit =
        .error (.trouble (.noSignChange a (f a) b (f b)))) := by
  refine ⟨fun opposed => ⟨?_, ?_, ?_⟩, ?_⟩
  · -- The function without a value at `x` has values in the whole range if `x` is outside.
    intro x evaluates
    by_contra outside
    have values : ∀ y ∈ Set.uIcc a b, refusing f x y = .ok (f y) := by
      intro y inside
      have other : y ≠ x := by
        rintro rfl
        exact outside inside
      exact if_neg other
    have failed : brent (refusing f x) a b tolerance limit = .error (.sample ()) := evaluates
    obtain ⟨-, ended⟩ | ⟨-, n, s, ending, -, -, -, ended⟩ | ⟨-, s, -, ended⟩ :=
      brent_outcome limit positive opposed values
    · cases failed.symm.trans ended
    · cases failed.symm.trans ended
    · cases failed.symm.trans ended
  · intro n s visited
    obtain ⟨ready, within⟩ := visited.ready positive opposed (fun _ _ => rfl)
    refine ⟨ready.prepare, within.prepare.range, ?_⟩
    intro t continued
    have next := Brent.round_next positive ready.prepare (fun _ _ => rfl) continued
    exact next.2.prepare.range
  · exact brent_outcome limit positive opposed (fun _ _ => rfl)
  · exact brent_unopposed tolerance limit rfl rfl

/-- The positive root of `x ^ 2 - 2` between `0` and `2`, in at most ten iterations: the first of
them evaluates in the middle, and none outside the bounds. -/
theorem brent_keeps_bracket_square :
    (0 : Rat) < 1 / 10 ∧ Opposed ((0 : Rat) * 0 - 2) (2 * 2 - 2) ∧
      BrentEvaluates (fun x => x * x - 2) 0 2 (1 / 10) 10 1 ∧
      ∀ x, BrentEvaluates (fun x => x * x - 2) 0 2 (1 / 10) 10 x → x ∈ Set.uIcc 0 2 := by
  have positive : (0 : Rat) < 1 / 10 := by norm_num
  have opposed : Opposed ((0 : Rat) * 0 - 2) (2 * 2 - 2) :=
    .inr (.inr (.inl ⟨by norm_num, by norm_num⟩))
  have kept := brent_keeps_bracket (fun x => x * x - 2) 0 2 positive 10
  have evaluated : BrentEvaluates (fun x => x * x - 2) 0 2 (1 / 10) 10 1 := by
    unfold BrentEvaluates
    decide +kernel
  exact ⟨positive, opposed, evaluated, (kept.1 opposed).1⟩

end SciCalc.Root
