/-
# SciCalc.Proofs.SingularPoints -- the points that a search for discontinuities lists

A search for discontinuities fails in two ways only: if its range cannot be divided, and at a
point behind whose failure it does not go on.  An expression has no failure of the second sort:
at a point it meets an evaluation fault, which the search is told as one of integrating, or a
count out of range, and it passes over both (`passesOver_of_sampled`).  So whenever there are
some points, and not more than doubles can count, the search ends, and lists exactly those where
the expression fails or is not finite, in the order of the grid (`discontinuities_exact`).

What was met at one point does not matter at the next: the points are told apart by what the
whole expression gives there when it is evaluated by itself (`Subject.singularAt`).
-/
import SciCalc.Proofs.Number.Whole
import SciCalc.Proofs.TaskFault

namespace SciCalc

set_option autoImplicit false

open SciCalc.Syntax (Token parse)

/-! ## Outcomes that are not finite -/

/-- Whether there is no finite value: a fault instead of one, no number, or an infinity. -/
def noFinite {ε : Type} : Except ε Float → Bool
  | .ok y => y.isNaN || y.isInf
  | .error _ => true

theorem noFinite_mapError {ε ε' : Type} (tell : ε → ε') (outcome : Except ε Float) :
    noFinite (outcome.mapError tell) = noFinite outcome := by
  cases outcome <;> rfl

theorem Number.isFinite_eq (y : Float) : y.isFinite = !(y.isNaN || y.isInf) := by
  show (form y).isFinite = !((form y).isNaN || (form y).isInf)
  cases form y <;> rfl

namespace Quadrature

open Number

section Search

variable {ε : Type} {f : Float → Except ε Float} {passes : ε → Bool}

theorem sample_of_finite {x : Float} (finite : noFinite (f x) = false) :
    ∃ y, sample f x = .ok y := by
  cases value : f x with
  | error cause =>
      rw [value] at finite
      cases finite
  | ok y =>
      rw [value] at finite
      have bounded : Scalar.isFinite y = true := (isFinite_eq y).trans (congrArg (!·) finite)
      refine ⟨y, ?_⟩
      rw [sample, value]
      exact if_pos bounded

theorem sample_of_noFinite {x : Float} (singular : noFinite (f x) = true) :
    ∃ failure, sample f x = .error failure ∧
      ∀ cause, failure = .sample cause → f x = .error cause := by
  cases value : f x with
  | error cause =>
      refine ⟨.sample cause, ?_, fun own same => by cases same; rfl⟩
      rw [sample, value]
  | ok y =>
      rw [value] at singular
      have unbounded : ¬ Scalar.isFinite y = true :=
        Bool.eq_false_iff.1 ((isFinite_eq y).trans (congrArg (!·) singular))
      refine ⟨.trouble (.nonFinite y x), ?_, fun own same => by cases same⟩
      rw [sample, value]
      exact if_neg unbounded

/-- A search that goes on behind all failures of the function lists the points without a finite
value, each as often as it is among the points, and in their order. -/
theorem outcome_singularAmong (passing : ∀ x cause, f x = .error cause → passes cause = true)
    (points : List Float) :
    (singularAmong f passes points).outcome = .ok (points.filter fun x => noFinite (f x)) := by
  induction points with
  | nil => rfl
  | cons x points ih =>
      cases singular : noFinite (f x) with
      | false =>
          obtain ⟨y, sampled⟩ := sample_of_finite singular
          have other : ¬ noFinite (f x) = true := Bool.eq_false_iff.1 singular
          rw [singularAmong, sampled, List.filter_cons, if_neg other]
          exact ih
      | true =>
          obtain ⟨failure, sampled, own⟩ := sample_of_noFinite singular
          -- A value that is not finite is passed over in any case, a cause by assumption.
          have passed : failure.passedOver passes = true := by
            cases failure with
            | sample cause => exact passing x cause (own cause rfl)
            | trouble _ => rfl
          have ended : (singularAmong f passes (x :: points)).outcome =
              (singularAmong f passes points).outcome >>= fun found => .ok (x :: found) := by
            simp only [singularAmong, sampled, if_pos passed]
            rw [Report.outcome_note_bind, Report.outcome_bind]
            rfl
          rw [ended, ih, List.filter_cons, if_pos singular]
          rfl

theorem outcome_discontinuities (passing : ∀ x cause, f x = .error cause → passes cause = true)
    {a b width : Float} {samples : Int} (divided : partWidth a b samples = .ok width) :
    (discontinuities f passes a b samples).outcome =
      .ok (((List.range samples.toNat).map (gridPoint a width)).filter
        fun x => noFinite (f x)) := by
  have step : (Report.ofExcept (widthOf a b samples) :
      Report (Event Float ε) (Failure Float ε) Float).outcome = .ok width := by
    rw [Report.ofExcept, widthOf, divided]
    rfl
  rw [discontinuities, Report.outcome_bind_ok _ _ _ step]
  exact outcome_singularAmong passing _

theorem outcome_discontinuities_undivided {a b : Float} {samples : Int} {cause : PartFault}
    (undivided : partWidth a b samples = .error cause) :
    (discontinuities f passes a b samples).outcome = .error (.trouble (.parts cause)) := by
  refine Report.outcome_bind_error _ _ _ ?_
  rw [Report.ofExcept, widthOf, undivided]
  rfl

end Search

end Quadrature

/-! ## Points of an expression -/

/-- The points `a + i * step` of an even grid, for each `i` below the number of samples. -/
def evenGrid (a b : Float) (samples : Int) : List Float :=
  (List.range samples.toNat).map fun i => a + Float.ofNat i * ((b - a) / Float.ofInt samples)

namespace Subject

/-- What the expression gives at a point of its variable, read and evaluated by itself. -/
def evaluateAt (s : Subject) (x : Float) : Except Fault Float :=
  (evaluate (s.context.bind s.argument (some x)).1 s.strict s.expression).outcome

/-- Whether the expression fails at a point, or is not finite there. -/
def singularAt (s : Subject) (x : Float) : Bool := noFinite (s.evaluateAt x)

variable {s : Subject} {ts : List Token}

theorem evaluateAt_eq (parses : (parse s.strict s.expression).outcome = .ok ts) (x : Float) :
    s.evaluateAt x = evaluatePostfix (s.context.bind s.argument (some x)).1 ts := by
  rw [evaluateAt, outcome_evaluate, parses]
  rfl

/-- A point is singular however its failures are told. -/
theorem noFinite_bare (layer : Layer) (parses : (parse s.strict s.expression).outcome = .ok ts)
    (x : Float) : noFinite (retold (s.reported layer) (s.bare ts) x) = s.singularAt x := by
  rw [retold, bare, noFinite_mapError, noFinite_mapError, singularAt, evaluateAt_eq parses]

/-- Whatever keeps a sample from having a value, a search for discontinuities goes on behind
it. -/
theorem passesOver_of_sampled {x : Float} {fault : Fault}
    (failed : retold (s.reported .integrating) (s.bare ts) x = .error fault) :
    Integrate.passesOver fault = true := by
  rw [retold, bare, mapError_mapError, mapError_eq_error] at failed
  obtain ⟨cause, failed, rfl⟩ := failed
  show Integrate.passesOver (s.reported .integrating ⟨x, cause⟩) = true
  rcases accounted_evaluatePostfix failed with evaluation | ⟨range, -⟩
  · rw [reported, if_pos evaluation]
    rfl
  · have other : ¬ cause.kind.isEvaluation = true := by
      rw [range]
      decide
    rw [reported, if_neg other, Integrate.passesOver, range]
    rfl

end Subject

section Discontinuities

variable {s : Subject} {ts : List Token} {a b : Float} {samples : Int}

/-- The search on an expression that can be read is that on its bare function. -/
theorem outcome_discontinuities (plain : Plain s.argument)
    (parses : (parse s.strict s.expression).outcome = .ok ts) :
    (discontinuities s a b samples).outcome =
      (Quadrature.discontinuities (retold (s.reported .integrating) (s.bare ts))
        Integrate.passesOver a b samples).outcome.mapError Quadrature.Failure.fault := by
  rw [discontinuities, Subject.sampler,
    Report.outcome_bind_ok _ _ _ (Sampler.ofExpression_of_parse parses),
    Subject.value_sampler plain ts]
  rfl

/-- More points than doubles can count are refused before any is looked at. -/
theorem discontinuities_tooMany (plain : Plain s.argument)
    (parses : (parse s.strict s.expression).outcome = .ok ts)
    (beyond : Number.wholeLimit ≤ samples) :
    (discontinuities s a b samples).outcome = .error (.quadrature (.parts .tooMany)) := by
  rw [outcome_discontinuities plain parses, Quadrature.outcome_discontinuities_undivided
    (Number.partWidth_eq_tooMany a b beyond)]
  rfl

/-- However many points a sampler has been called at, the failing ones among them are those where
the expression fails by itself. -/
theorem noFinite_callAll (parses : (parse s.strict s.expression).outcome = .ok ts) :
    ∃ sampler, (s.sampler .integrating).outcome = .ok sampler ∧
      ∀ points, (sampler.callAll points).1.map noFinite = points.map s.singularAt := by
  refine ⟨_, Sampler.ofExpression_of_parse parses, fun points => ?_⟩
  obtain ⟨stack, called⟩ := Sampler.callAll_eq
    ⟨s.expression, ts, s.argument, some .integrating, Machine.new s.context⟩ points
  rw [called, List.map_map]
  refine List.map_congr_left fun x _ => ?_
  rw [Function.comp_apply, Sampler.fresh, noFinite_mapError, Subject.singularAt,
    Subject.evaluateAt_eq parses]
  rfl

end Discontinuities

/-- **A search for discontinuities is total and exact.**  It has an outcome for every expression
that can be read, every range and every number of samples up to the limit: the points of the
grid where the expression, evaluated by itself, fails or is not finite, in order and each once.
There it has an evaluation fault, or a count that is out of range; and the function that is
sampled has no finite value at the same points, whatever the points before them were.  More
samples than that are refused. -/
theorem discontinuities_exact (s : Subject)
    (plain : ∀ c ∈ s.argument.toList, c ≠ '\x7b' ∧ c ≠ '\x7d') {ts : List Token}
    (parses : (parse s.strict s.expression).outcome = .ok ts) (a b : Float) {samples : Int}
    (some : 1 ≤ samples) :
    (samples < Number.wholeLimit →
      (discontinuities s a b samples).outcome =
        .ok ((evenGrid a b samples).filter s.singularAt)) ∧
    (Number.wholeLimit ≤ samples →
      (discontinuities s a b samples).outcome = .error (.quadrature (.parts .tooMany))) ∧
    (∀ x fault, s.evaluateAt x = .error fault → fault.kind.isEvaluation = true ∨
      fault.kind = .range ∧ ∃ t ∈ ts, CountLimit t fault) ∧
    ∃ sampler, (s.sampler .integrating).outcome = .ok sampler ∧
      ∀ points, (sampler.callAll points).1.map noFinite = points.map s.singularAt := by
  refine ⟨fun within => ?_, discontinuities_tooMany plain parses, fun x fault failed => ?_,
    noFinite_callAll parses⟩
  · have singular : (fun x => noFinite (retold (s.reported .integrating) (s.bare ts) x)) =
        s.singularAt :=
      funext (Subject.noFinite_bare .integrating parses)
    rw [outcome_discontinuities plain parses, Quadrature.outcome_discontinuities
      (fun _ _ => Subject.passesOver_of_sampled) (Number.partWidth_eq_ok a b some within), singular]
    rfl
  · rw [Subject.evaluateAt_eq parses] at failed
    exact accounted_evaluatePostfix failed

theorem plain_x : Plain "x" := by
  intro c inside
  have single : "x".toList = ['x'] := by decide +kernel
  rw [single] at inside
  rw [List.mem_singleton.1 inside]
  decide

/-- Of three points the first has a zero divisor, when the first summand is on the stack still,
and the last has an infinite factorial. -/
theorem discontinuities_exact_factorial :
    let s : Subject := ⟨"2+(170*x)!/x", "x", .new .degrees .empty, true⟩
    (∀ c ∈ s.argument.toList, c ≠ '\x7b' ∧ c ≠ '\x7d') ∧
      (parse true "2+(170*x)!/x").outcome =
        .ok [.number 2.0, .number 170.0, .var "X", .operator "*" false, .operator "!" false,
          .var "X", .operator "/" false, .operator "+" false] ∧
      (1 : Int) ≤ 3 ∧ (3 : Int) < Number.wholeLimit ∧
      evenGrid 0.0 3.0 3 = [0.0, 1.0, 2.0] ∧
      [0.0, 1.0, 2.0].map s.singularAt = [true, false, true] ∧
      s.evaluateAt 0.0 = .error .divisionByZero ∧
      (discontinuities s 0.0 3.0 3).outcome = .ok ((evenGrid 0.0 3.0 3).filter s.singularAt) := by
  intro s
  have parses : (parse true "2+(170*x)!/x").outcome =
      .ok [.number 2.0, .number 170.0, .var "X", .operator "*" false, .operator "!" false,
        .var "X", .operator "/" false, .operator "+" false] := rfl
  have within : (3 : Int) < Number.wholeLimit := by decide +kernel
  obtain ⟨listed, -, -, -⟩ := discontinuities_exact s plain_x parses 0.0 3.0
    (show (1 : Int) ≤ 3 by decide)
  exact ⟨plain_x, parses, by decide, within, by decide +kernel, by decide +kernel,
    by decide +kernel, listed within⟩

/-- With more points than doubles can count there is no list of them, whatever the expression. -/
theorem discontinuities_beyond_limit :
    let s : Subject := ⟨"x", "x", .new .degrees .empty, true⟩
    (∀ c ∈ s.argument.toList, c ≠ '\x7b' ∧ c ≠ '\x7d') ∧
      (parse true "x").outcome = .ok [.var "X"] ∧
      (1 : Int) ≤ (10 ^ 309 : Nat) ∧
      (discontinuities s 0.0 1.0 (10 ^ 309 : Nat)).outcome =
        .error (.quadrature (.parts .tooMany)) := by
  intro s
  have parses : (parse true "x").outcome = .ok [.var "X"] := rfl
  have beyond : (Number.wholeLimit : Int) ≤ (10 ^ 309 : Nat) := Int.ofNat_le.2 (by decide +kernel)
  have some : (1 : Int) ≤ (10 ^ 309 : Nat) := Int.ofNat_le.2 (by decide +kernel)
  exact ⟨plain_x, parses, some, discontinuities_tooMany plain_x parses beyond⟩

end SciCalc
