/-
# SciCalc.Proofs.Root.Negation -- the roots of the negated function

Over the rationals a method does on `-f` what it does on `f`: it goes through the same points and
ends at the same one for the same reason, or fails in the same way.  What it keeps of the
function's values differs in sign, and nothing that it does with them shows the sign: sizes are
compared, signs with one another, and steps are quotients of values.

Two runs that are alike in this way mirror one another (`Mirrors`).  The relation goes through
sequences and branches, so that it is followed through a method line by line; at the leaves are
a sample (`mirrors_sample`) and a quotient of two values (`mirrors_quotient`).

Bisection alone compares a single value with zero, from one side, and would not keep the same
half if it were zero.  It is not: such a value is small, and the run has ended with it.
-/
import SciCalc.Fault
import SciCalc.Proofs.Root.BrentBracket
import SciCalc.Root.Bisection
import SciCalc.Root.Newton

namespace SciCalc.Root

set_option autoImplicit false

open SciCalc.Number

/-! ## Values with the other sign -/

section Negate

variable {ε : Type}

/-- The function with the other sign; where it has no value it has none. -/
def negated (f : Rat → Except ε Rat) (x : Rat) : Except ε Rat := (f x).map (- ·)

/-- The same ends, their values with the other sign. -/
def Bracket.negate (k : Bracket Rat) : Bracket Rat := ⟨k.a, -k.fa, k.b, -k.fb⟩

def Brent.negate (s : Brent Rat) : Brent Rat :=
  { s with fa := -s.fa, fb := -s.fb, fc := -s.fc }

/-- The same end of a run, its values and slopes with the other sign. -/
def Ending.negate : Ending Rat → Ending Rat
  | bound root value => bound root (-value)
  | smallValue root value iterations => smallValue root (-value) iterations
  | smallStep root value slope iterations => smallStep root (-value) (-slope) iterations
  | narrow root bracket iterations => narrow root bracket.negate iterations
  | exhausted root bracket limit => exhausted root bracket.negate limit

def Trouble.negate : Trouble Rat → Trouble Rat
  | noSignChange a fa b fb => noSignChange a (-fa) b (-fb)
  | leftDomain x fx => leftDomain x (-fx)
  | trouble => trouble

def Failure.negate : Failure Rat ε → Failure Rat ε
  | sample cause => sample cause
  | trouble cause => trouble cause.negate

theorem Ending.root_negate (ending : Ending Rat) : ending.negate.root = ending.root := by
  cases ending <;> rfl

theorem Trouble.kind_negate (trouble : Trouble Rat) : trouble.negate.kind = trouble.kind := by
  cases trouble <;> rfl

theorem size_neg (x : Rat) : Scalar.abs (-x) = Scalar.abs x := by
  rw [abs_rat, abs_rat, abs_neg]

theorem small_neg (x bound : Rat) : Scalar.abs (-x) < bound ↔ Scalar.abs x < bound := by
  rw [size_neg]

theorem rise_neg (x y : Rat) : -x - -y = -(x - y) := by rw [neg_sub_neg, neg_sub]

theorem encloses_neg (fa fb : Rat) : encloses (-fa) (-fb) = encloses fa fb := by
  rw [Bool.eq_iff_iff, encloses_rat, encloses_rat, Opposed, Opposed, neg_eq_zero, neg_eq_zero]
  simp only [neg_pos, Left.neg_neg_iff]
  rw [or_comm (a := 0 < fa ∧ fb < 0)]

end Negate

/-! ## Runs that mirror one another -/

section Mirror

variable {ε β γ β' γ' : Type} {g : β → β'} {h : γ → γ'}

/-- The first run is the second one told with the other sign: its result is that of the second
under a given map, or it has the same failure. -/
def Mirrors (g : β → β') (mirror : Except (Failure Rat ε) β') (run : Except (Failure Rat ε) β) :
    Prop :=
  mirror = (run.map g).mapError Failure.negate

theorem Mirrors.ok (x : β) : Mirrors (ε := ε) g (.ok (g x)) (.ok x) := rfl

theorem Mirrors.error (failure : Failure Rat ε) :
    Mirrors g (.error failure.negate) (.error failure) := rfl

theorem Mirrors.bind {mirror : Except (Failure Rat ε) β'} {run : Except (Failure Rat ε) β}
    {next' : β' → Except (Failure Rat ε) γ'} {next : β → Except (Failure Rat ε) γ}
    (first : Mirrors g mirror run) (rest : ∀ x, Mirrors h (next' (g x)) (next x)) :
    Mirrors h (mirror >>= next') (run >>= next) := by
  rw [Mirrors] at first
  subst first
  cases run with
  | ok x => exact rest x
  | error failure => rfl

/-- A branch that both runs take for the same reason; what the test has refused is known after
it. -/
theorem Mirrors.ite {c' c : Prop} [Decidable c'] [Decidable c]
    {yes' no' : Except (Failure Rat ε) β'} {yes no : Except (Failure Rat ε) β} (same : c' ↔ c)
    (left : Mirrors g yes' yes) (right : ¬ c → Mirrors g no' no) :
    Mirrors g (if c' then yes' else no') (if c then yes else no) := by
  by_cases test : c
  · rwa [if_pos test, if_pos (same.2 test)]
  · rw [if_neg test, if_neg (mt same.1 test)]
    exact right test

theorem mirrors_sample (f : Rat → Except ε Rat) (x : Rat) :
    Mirrors Neg.neg (sample (negated f) x) (sample f x) := by
  rw [sample, sample, negated]
  cases f x <;> rfl

theorem mirrors_divide {g : Rat → Rat} {x y x' y' : Rat} (zero : y' = 0 ↔ y = 0)
    (quotient : x' / y' = g (x / y)) :
    Mirrors g (divide x' y' : Except (Failure Rat ε) Rat) (divide x y) := by
  by_cases vanishes : y = 0
  · rw [vanishes, zero.2 vanishes, divide_rat_zero, divide_rat_zero]
    exact .error (.trouble .zeroDivisor)
  · rw [divide_rat vanishes, divide_rat (mt zero.1 vanishes), quotient]
    exact .ok (x / y)

/-- The quotient of two values has no sign of its own. -/
theorem mirrors_quotient (x y : Rat) :
    Mirrors id (divide (-x) (-y) : Except (Failure Rat ε) Rat) (divide x y) :=
  mirrors_divide neg_eq_zero (neg_div_neg_eq x y)

end Mirror

section Methods

variable {ε : Type} {f : Rat → Except ε Rat} {tolerance : Rat} {limit : Int}

/-! ## The open methods -/

theorem mirrors_centralDifference (f : Rat → Except ε Rat) (step x : Rat) :
    Mirrors Neg.neg (centralDifference (negated f) step x) (centralDifference f step x) := by
  rw [centralDifference, centralDifference]
  refine (mirrors_sample f (x + step)).bind fun right => ?_
  refine (mirrors_sample f (x - step)).bind fun left => ?_
  refine mirrors_divide Iff.rfl ?_
  rw [rise_neg, neg_div]

theorem mirrors_newtonSteps {slope' slope : Rat → Except (Failure Rat ε) Rat}
    (slopes : ∀ x, Mirrors Neg.neg (slope' x) (slope x)) (left done : Nat) (x : Rat) :
    Mirrors Ending.negate (newtonSteps (negated f) slope' tolerance limit left done x)
      (newtonSteps f slope tolerance limit left done x) := by
  induction left generalizing done x with
  | zero => exact .error (.trouble (.notConverged .newton limit))
  | succ left ih =>
      rw [newtonSteps, newtonSteps]
      refine (mirrors_sample f x).bind fun fx => ?_
      refine .ite Iff.rfl (.error (.trouble (.leftDomain x fx))) fun _ => ?_
      refine .ite (small_neg fx tolerance) (.ok (Ending.smallValue x fx (done + 1))) fun _ => ?_
      refine (slopes x).bind fun dfx => ?_
      refine .ite (small_neg dfx minSlope) (.error (.trouble (.flatDerivative x))) fun _ => ?_
      refine (mirrors_quotient fx dfx).bind fun step => ?_
      refine .ite Iff.rfl (.ok (Ending.smallStep (x - step) fx dfx (done + 1))) fun _ => ?_
      exact ih (done + 1) (x - step)

theorem mirrors_secantSteps (left done : Nat) (x₀ f₀ x₁ : Rat) :
    Mirrors Ending.negate (secantSteps (negated f) tolerance limit left done x₀ (-f₀) x₁)
      (secantSteps f tolerance limit left done x₀ f₀ x₁) := by
  induction left generalizing done x₀ f₀ x₁ with
  | zero => exact .error (.trouble (.notConverged .secant limit))
  | succ left ih =>
      rw [secantSteps, secantSteps]
      refine (mirrors_sample f x₁).bind fun f₁ => ?_
      rw [rise_neg, neg_mul]
      refine .ite (small_neg f₁ tolerance) (.ok (Ending.smallValue x₁ f₁ (done + 1))) fun _ => ?_
      refine .ite (small_neg (f₁ - f₀) minSlope) (.error (.trouble (.equalValues x₀ x₁)))
        fun _ => ?_
      refine (mirrors_quotient (f₁ * (x₁ - x₀)) (f₁ - f₀)).bind fun step => ?_
      refine .ite Iff.rfl (.ok (Ending.smallStep (x₁ - step) f₁ (f₁ - f₀) (done + 1)))
        fun _ => ?_
      exact ih (done + 1) x₁ f₁ (x₁ - step)

theorem mirrors_secant (x₀ x₁ : Rat) :
    Mirrors Ending.negate (secant (negated f) x₀ x₁ tolerance limit)
      (secant f x₀ x₁ tolerance limit) := by
  rw [secant, secant]
  refine (mirrors_sample f x₀).bind fun f₀ => ?_
  exact mirrors_secantSteps limit.toNat 0 x₀ f₀ x₁

/-! ## Bisection -/

/-- A value that is not small is not zero. -/
theorem ne_zero_of_large {x : Rat} (positive : 0 < tolerance) (large : ¬ Scalar.abs x < tolerance) :
    x ≠ 0 := by
  rintro rfl
  exact large positive

theorem negative_neg {x : Rat} (nonzero : x ≠ 0) : -x < 0.0 ↔ ¬ x < 0.0 := by
  rw [zero_rat, neg_lt_zero, not_lt]
  exact nonzero.symm.le_iff_lt.symm

/-- Two values that are not zero agree in sign if they do with the other sign. -/
theorem agrees_neg {x y : Rat} (left : x ≠ 0) (right : y ≠ 0) :
    (-x < 0.0 ↔ -y < 0.0) ↔ (x < 0.0 ↔ y < 0.0) := by
  rw [negative_neg left, negative_neg right, not_iff_not]

/-- The same half is kept as long as no value is zero. -/
theorem Bracket.halve_negate {k : Bracket Rat} {fm : Rat} (left : k.fa ≠ 0) (middle : fm ≠ 0) :
    k.negate.halve (-fm) = (k.halve fm).negate := by
  by_cases agrees : k.fa < 0.0 ↔ fm < 0.0
  · have agrees' : k.negate.fa < 0.0 ↔ -fm < 0.0 := (agrees_neg left middle).2 agrees
    rw [halve_of_agrees agrees, halve_of_agrees agrees']
    rfl
  · have differs' : ¬ (k.negate.fa < 0.0 ↔ -fm < 0.0) := mt (agrees_neg left middle).1 agrees
    rw [halve_of_differs agrees, halve_of_differs differs']
    rfl

theorem Bracket.halve_fa_ne_zero {k : Bracket Rat} {fm : Rat} (left : k.fa ≠ 0)
    (middle : fm ≠ 0) : (k.halve fm).fa ≠ 0 := by
  unfold halve
  split
  · exact left
  · exact middle

theorem mirrors_bisect (positive : 0 < tolerance) (left done : Nat) {k : Bracket Rat}
    (nonzero : k.fa ≠ 0) :
    Mirrors Ending.negate (bisect (negated f) tolerance limit left done k.negate)
      (bisect f tolerance limit left done k) := by
  induction left generalizing done k with
  | zero => exact .ok (Ending.exhausted k.middle k limit)
  | succ left ih =>
      rw [bisect, bisect]
      refine (mirrors_sample f k.middle).bind fun fm => ?_
      refine .ite (small_neg fm tolerance) (.ok (Ending.smallValue k.middle fm (done + 1)))
        fun large => ?_
      refine .ite Iff.rfl (.ok (Ending.narrow k.middle k (done + 1))) fun _ => ?_
      have middle : fm ≠ 0 := ne_zero_of_large positive large
      rw [Bracket.halve_negate nonzero middle]
      exact ih (done + 1) (Bracket.halve_fa_ne_zero nonzero middle)

theorem mirrors_bisection (positive : 0 < tolerance) (a b : Rat) :
    Mirrors Ending.negate (bisection (negated f) a b tolerance limit)
      (bisection f a b tolerance limit) := by
  rw [bisection, bisection]
  refine (mirrors_sample f a).bind fun fa => ?_
  refine (mirrors_sample f b).bind fun fb => ?_
  rw [encloses_neg]
  refine .ite Iff.rfl (.error (.trouble (.noSignChange a fa b fb))) fun _ => ?_
  refine .ite (small_neg fa tolerance) (.ok (Ending.bound a fa)) fun large => ?_
  refine .ite (small_neg fb tolerance) (.ok (Ending.bound b fb)) fun _ => ?_
  let k : Bracket Rat := ⟨a, fa, b, fb⟩
  have nonzero : k.fa ≠ 0 := ne_zero_of_large positive large
  exact mirrors_bisect positive limit.toNat 0 nonzero

/-! ## Brent's method -/

namespace Brent

theorem oneSided_negate (s : Brent Rat) : s.negate.oneSided = s.oneSided := by
  rw [Bool.eq_iff_iff, oneSided_rat, oneSided_rat]
  simp only [negate, neg_pos, Left.neg_neg_iff]
  exact or_comm

theorem rebracket_negate (s : Brent Rat) : s.negate.rebracket = s.rebracket.negate := by
  rw [rebracket, rebracket, oneSided_negate]
  cases s.oneSided <;> rfl

theorem orient_negate (s : Brent Rat) : s.negate.orient = s.orient.negate := by
  rw [orient_rat, orient_rat]
  simp only [negate, abs_neg]
  split <;> rfl

theorem prepare_negate (s : Brent Rat) : s.negate.prepare = s.prepare.negate := by
  rw [prepare, rebracket_negate, orient_negate, prepare]

theorem mirrors_interpolate (s : Brent Rat) :
    Mirrors id (s.negate.interpolate : Except (Failure Rat ε) (Rat × Rat)) s.interpolate := by
  rw [interpolate, interpolate]
  refine (mirrors_quotient s.fb s.fa).bind fun t => ?_
  refine .ite Iff.rfl (.ok _) fun _ => ?_
  refine (mirrors_quotient s.fa s.fc).bind fun q => ?_
  refine (mirrors_quotient s.fb s.fc).bind fun r => ?_
  exact .ok _

theorem mirrors_stride (s : Brent Rat) (resolution : Rat) :
    Mirrors id (s.negate.stride resolution : Except (Failure Rat ε) (Rat × Rat))
      (s.stride resolution) := by
  have better : resolution ≤ Scalar.abs s.negate.e ∧
      Scalar.abs s.negate.fb < Scalar.abs s.negate.fa ↔
      resolution ≤ Scalar.abs s.e ∧ Scalar.abs s.fb < Scalar.abs s.fa := by
    rw [negate, size_neg, size_neg]
  rw [stride, stride]
  refine .ite better ?_ fun _ => .ok (s.half, s.half)
  refine s.mirrors_interpolate.bind fun fraction => ?_
  obtain ⟨p, q⟩ := fraction
  refine .ite Iff.rfl ?_ fun _ => .ok (s.half, s.half)
  -- The fraction is the same one, so that its quotient is.
  exact (mirrors_divide Iff.rfl rfl).bind fun d => .ok (d, s.d)

/-- The resolution, the half of the bracket and the point that a step leads to depend on no
value, so that both iterations sample the same point. -/
theorem mirrors_round (done : Nat) (s : Brent Rat) :
    Mirrors (Sum.map Ending.negate negate) (round (negated f) tolerance done s.negate)
      (round f tolerance done s) := by
  rw [round, round, prepare_negate]
  generalize s.prepare = s
  refine .ite Iff.rfl (.ok (Sum.inl (Ending.narrow s.b s.bracket done))) fun _ => ?_
  refine .ite (small_neg s.fb tolerance) (.ok (Sum.inl (Ending.smallValue s.b s.fb done)))
    fun _ => ?_
  refine (s.mirrors_stride (s.resolution tolerance)).bind fun steps => ?_
  obtain ⟨d, e⟩ := steps
  refine (mirrors_sample f (s.target (s.resolution tolerance) d)).bind fun value => ?_
  exact .ok (Sum.inr (s.advance d e (s.target (s.resolution tolerance) d) value))

theorem mirrors_iterate (left done : Nat) (s : Brent Rat) :
    Mirrors Ending.negate (iterate (negated f) tolerance limit left done s.negate)
      (iterate f tolerance limit left done s) := by
  induction left generalizing done s with
  | zero => exact .error (.trouble (.notConverged .brent limit))
  | succ left ih =>
      rw [iterate, iterate]
      refine (mirrors_round done s).bind fun result => ?_
      cases result with
      | inl ending => exact .ok ending
      | inr next => exact ih (done + 1) next

end Brent

theorem mirrors_brent (a b : Rat) :
    Mirrors Ending.negate (brent (negated f) a b tolerance limit)
      (brent f a b tolerance limit) := by
  rw [brent, brent]
  refine (mirrors_sample f a).bind fun fa => ?_
  refine (mirrors_sample f b).bind fun fb => ?_
  rw [encloses_neg]
  have zero : (-fa == (0.0 : Rat)) = true ↔ (fa == (0.0 : Rat)) = true := by
    rw [zero_rat, beq_iff_eq, beq_iff_eq, neg_eq_zero]
  refine .ite Iff.rfl (.error (.trouble (.noSignChange a fa b fb))) fun _ => ?_
  refine .ite zero (.ok (Ending.bound a fa)) fun _ => ?_
  exact Brent.mirrors_iterate limit.toNat 0 (.start a fa b fb)

end Methods

/-! ## What a caller sees -/

section Observed

variable {ε : Type}

/-- What a caller sees of a run: the point returned, or the kind of its error, which for a
function without a value is the function's own. -/
def observed : Except (Failure Rat ε) (Ending Rat) → Except (ε ⊕ Kind) Rat
  | .ok ending => .ok ending.root
  | .error (.sample cause) => .error (.inl cause)
  | .error (.trouble trouble) => .error (.inr trouble.kind)

theorem Mirrors.observed_eq {mirror run : Except (Failure Rat ε) (Ending Rat)}
    (mirrors : Mirrors Ending.negate mirror run) : observed mirror = observed run := by
  rw [Mirrors] at mirrors
  subst mirrors
  rcases run with (cause | trouble) | ending
  · rfl
  · show Except.error (Sum.inr trouble.negate.kind) = _
    rw [trouble.kind_negate]
    rfl
  · show Except.ok ending.negate.root = _
    rw [ending.root_negate]
    rfl

end Observed

/-- **A function and its negation have the same roots**, whatever the function, the points to
start from, the tolerance above zero and the number of iterations allowed: every method returns
the same point for both, or an error of the same kind.  A derivative that Newton's method is
given is negated with the function. -/
theorem observed_negated {ε : Type} (f derivative : Rat → Except ε Rat) (a b : Rat)
    {tolerance : Rat} (positive : 0 < tolerance) (limit : Int) :
    observed (bisection (negated f) a b tolerance limit) =
        observed (bisection f a b tolerance limit) ∧
      observed (brent (negated f) a b tolerance limit) =
        observed (brent f a b tolerance limit) ∧
      observed (secant (negated f) a b tolerance limit) =
        observed (secant f a b tolerance limit) ∧
      (∀ step,
        observed (newton (negated f) (centralDifference (negated f) step) a tolerance limit) =
          observed (newton f (centralDifference f step) a tolerance limit)) ∧
      observed (newton (negated f) (sample (negated derivative)) a tolerance limit) =
        observed (newton f (sample derivative) a tolerance limit) := by
  refine ⟨(mirrors_bisection positive a b).observed_eq, (mirrors_brent a b).observed_eq,
    (mirrors_secant a b).observed_eq, fun step => ?_, ?_⟩
  · exact (mirrors_newtonSteps (mirrors_centralDifference f step) _ _ a).observed_eq
  · exact (mirrors_newtonSteps (mirrors_sample derivative) _ _ a).observed_eq

/-- The positive root of `2 - x ^ 2`, where each method finds it for `x ^ 2 - 2`. -/
theorem observed_negated_square :
    let f (x : Rat) : Except Unit Rat := .ok (x * x - 2)
    let derivative (x : Rat) : Except Unit Rat := .ok (2 * x)
    (0 : Rat) < 1 / 10 ∧
      observed (bisection (negated f) 2 0 (1 / 10) 10) = .ok (23 / 16) ∧
      observed (brent (negated f) 2 0 (1 / 10) 10) = .ok (7 / 5) ∧
      observed (secant (negated f) 2 0 (1 / 10) 10) = .ok (7 / 5) ∧
      observed (newton (negated f) (sample (negated derivative)) 2 (1 / 10) 10) =
        .ok (17 / 12) := by
  intro f derivative
  have positive : (0 : Rat) < 1 / 10 := by norm_num
  obtain ⟨bisected, interpolated, secants, -, tangents⟩ :=
    observed_negated f derivative 2 0 positive 10
  refine ⟨positive, bisected.trans ?_, interpolated.trans ?_, secants.trans ?_,
    tangents.trans ?_⟩
  · decide +kernel
  · decide +kernel
  · decide +kernel
  · decide +kernel

end SciCalc.Root
