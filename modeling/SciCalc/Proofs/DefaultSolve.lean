/-
# SciCalc.Proofs.DefaultSolve -- solving with neither a method nor bounds

Unless told otherwise an equation is solved by Brent's method on the first window around the guess
whose ends enclose a root, and by Newton's method from the guess if there is none.  A window one of
whose ends cannot be evaluated is passed over, as long as that is reported as a fault of solving
(`Solve.passesOver`), and then has no influence on the outcome (`solve_default`).  The method is
never given a window that it refuses, so a solution is never missed for want of a sign change.

An evaluation fault is reported as one of solving under a heading that names the variable
(`sampled_fault`).  That is the rule, with one exception of the arithmetic, a count out of range,
and one of the heading: it is a template, so a name with braces makes the fault one of the template,
and the search stops at a window that it should have passed (`solve_default_template`).
-/
import SciCalc.Proofs.Root.Windows
import SciCalc.Proofs.TaskFault

namespace SciCalc

set_option autoImplicit false

open SciCalc.Number
open SciCalc.Syntax (Token parse)

/-! ## Faults of samples -/

theorem kind_template_ne_noSignChange (cause : Text.TemplateFault) :
    (Fault.template cause).kind ≠ .noSignChange := by
  cases cause with
  | layout cause => cases cause <;> exact fun same => nomatch same
  | _ => exact fun same => nomatch same

/-- What a sampler for solving fails with: an evaluation fault under a heading, a count out of
range, or a fault of the heading, which needs braces in the variable's name. -/
theorem sampled_fault {sampler : Sampler} (layer : sampler.layer = some .solving) {x : Float}
    {fault : Fault} (failed : sampler.value x = .error fault) :
    (∃ heading cause, fault = .wrapped .solving heading cause) ∨ fault.kind = .range ∨
      ∃ cause, fault = .template cause ∧ ¬ Plain sampler.argument := by
  obtain ⟨stack, called⟩ := sampler.call_eq x
  rw [Sampler.value, called, Sampler.fresh] at failed
  cases evaluated : evaluatePostfix (sampler.machine.context.bind sampler.argument (some x)).1
      sampler.tokens with
  | ok y =>
      rw [evaluated] at failed
      cases failed
  | error own =>
      rw [evaluated, mapError_error, layer, Sampler.report, Fault.wrapIn] at failed
      cases failed
      split
      · split
        · exact .inl ⟨_, _, rfl⟩
        · rename_i cause broken
          refine .inr (.inr ⟨cause, rfl, fun plain => ?_⟩)
          rw [Occasion.heading_evaluating _ _ (plain_bindingName plain)] at broken
          cases broken
      · rename_i other
        rcases accounted_evaluatePostfix evaluated with evaluation | ⟨range, -⟩
        · exact absurd evaluation other
        · exact .inr (.inl range)

/-- A failure that a method meets on its way is no refusal of bounds. -/
theorem kind_fault_ne_noSignChange {sampler : Sampler} (layer : sampler.layer = some .solving)
    {failure : Root.Failure Float Fault} (underway : failure.underway = true)
    (sampled : ∀ cause, failure = .sample cause → ∃ x, sampler.value x = .error cause) :
    failure.fault.kind ≠ .noSignChange := by
  cases failure with
  | trouble cause =>
      cases cause with
      | noSignChange _ _ _ _ | zeroDivisor | boundsRequired | parts _ => cases underway
      | _ => exact fun same => nomatch same
  | sample cause =>
      obtain ⟨x, failed⟩ := sampled cause rfl
      show cause.kind ≠ .noSignChange
      obtain ⟨heading, inner, rfl⟩ | range | ⟨template, rfl, -⟩ := sampled_fault layer failed
      · exact fun same => nomatch same
      · rw [range]
        exact fun same => nomatch same
      · exact kind_template_ne_noSignChange template

/-! ## Solving -/

/-- An expression that can be parsed makes a sampler, and solving is root finding on it. -/
theorem solve_of_parse {s : Subject} {ts : List Token}
    (parses : (parse s.strict s.expression).outcome = .ok ts) :
    ∃ sampler : Sampler, (s.sampler .solving).outcome = .ok sampler ∧
      sampler.layer = some .solving ∧ sampler.argument = s.argument ∧
      ∀ (o : Solve.Options) (method : Root.Method), Root.Method.ofName? o.method = some method →
        (solve s o).outcome = (Root.solve sampler.value Solve.passesOver
          (o.setting method)).outcome.mapError Root.Failure.fault := by
  have made : (s.sampler .solving).outcome =
      .ok ⟨s.expression, ts, s.argument, some .solving, Machine.new s.context⟩ :=
    Sampler.ofExpression_of_parse parses
  refine ⟨_, made, rfl, rfl, fun o method known => ?_⟩
  rw [solve, known]
  show (s.sampler .solving >>= _).outcome = _
  rw [Report.outcome_bind_ok _ _ _ made]
  rfl

/-- A sampler gives at a point what it would give there at first, whatever it was called at. -/
theorem call_callAll (sampler : Sampler) (earlier : List Float) (x : Float) :
    ((sampler.callAll earlier).2.call x).1 = sampler.value x := by
  obtain ⟨stack, before⟩ := sampler.callAll_eq earlier
  obtain ⟨_, now⟩ := (sampler.withStack stack).call_eq x
  obtain ⟨_, first⟩ := sampler.call_eq x
  rw [Sampler.value, first, before, now]
  rfl

/-- For a name without braces every window that does not enclose a root is passed, unless the
evaluation at one of its ends fails by a count out of range. -/
theorem passed_of_plain {sampler : Sampler} (layer : sampler.layer = some .solving)
    (plain : Plain sampler.argument) {guess : Float} {k : Nat}
    (apart : Root.enclosesAt sampler.value guess k ≠ .ok true)
    (counts : ∀ fault, Root.enclosesAt sampler.value guess k = .error fault → fault.kind ≠ .range) :
    Root.Passed sampler.value Solve.passesOver guess k := by
  refine Root.passed_of_not_enclosing (fun fault failed => ?_) apart
  have sampled : ∃ x, sampler.value x = .error fault := by
    obtain left | ⟨fa, -, rest⟩ := bind_eq_error.1 failed
    · exact ⟨_, left⟩
    · obtain right | ⟨fb, -, none⟩ := bind_eq_error.1 rest
      · exact ⟨_, right⟩
      · cases none
  obtain ⟨x, fails⟩ := sampled
  obtain ⟨heading, cause, rfl⟩ | range | ⟨cause, rfl, braced⟩ := sampled_fault layer fails
  · rfl
  · exact absurd range (counts fault failed)
  · exact absurd plain braced

/-- **Solving by default never complains about its own bracket.**  It runs on the sampler of the
expression, whose values do not depend on earlier calls, and no failure is a missing sign change.
The outcome is that of Brent's method on the first window whose ends enclose a root if those before
are passed, and that of Newton's method from the guess if all are.  For a variable without braces in
its name these are the windows that do not enclose a root, unless a count is out of range there. -/
theorem solve_default (s : Subject) (guess tolerance : Float) (limit : Int) {ts : List Token}
    (parses : (parse s.strict s.expression).outcome = .ok ts) :
    let solved := (solve s { guess := guess, tolerance := tolerance, limit := limit }).outcome
    ∃ sampler, (s.sampler .solving).outcome = .ok sampler ∧
      (∀ earlier x, ((sampler.callAll earlier).2.call x).1 = sampler.value x) ∧
      (∀ fault, solved = .error fault → fault.kind ≠ .noSignChange) ∧
      (Plain s.argument → ∀ k, Root.enclosesAt sampler.value guess k ≠ .ok true →
        (∀ fault, Root.enclosesAt sampler.value guess k = .error fault → fault.kind ≠ .range) →
        Root.Passed sampler.value Solve.passesOver guess k) ∧
      (∀ k, 1 ≤ k → k ≤ 10 → Root.enclosesAt sampler.value guess k = .ok true →
        (∀ j, 1 ≤ j → j < k → Root.Passed sampler.value Solve.passesOver guess j) →
        solved = ((Root.brent sampler.value (Root.window guess k).1 (Root.window guess k).2
          tolerance limit).map Root.Ending.root).mapError Root.Failure.fault) ∧
      ((∀ k, 1 ≤ k → k ≤ 10 → Root.Passed sampler.value Solve.passesOver guess k) →
        solved = ((Root.newton sampler.value
          (Root.centralDifference sampler.value Root.differenceStep) guess tolerance limit).map
            Root.Ending.root).mapError Root.Failure.fault) := by
  obtain ⟨sampler, made, layer, argument, solves⟩ := solve_of_parse parses
  have ran := solves { guess := guess, tolerance := tolerance, limit := limit } .brent rfl
  intro solved
  refine ⟨sampler, made, call_callAll sampler, fun fault failed => ?_,
    fun plain k => passed_of_plain layer (argument ▸ plain), ?_, ?_⟩
  · obtain ⟨failure, searched, rfl⟩ := (mapError_eq_error _).1 (ran.symm.trans failed)
    refine kind_fault_ne_noSignChange layer (Root.regular_solve rfl rfl failure searched) ?_
    rintro cause rfl
    exact Root.cause_of_solve searched
  · intro k positive small enclosed passed
    refine ran.trans (congrArg (Except.mapError _) ?_)
    refine Root.outcome_solve_found rfl rfl (Root.mem_windowNumbers.2 ⟨positive, small⟩) enclosed ?_
    exact fun j tried before => passed j (Root.mem_windowNumbers.1 tried).1 before
  · intro passed
    refine ran.trans (congrArg (Except.mapError _) ?_)
    refine Root.outcome_solve_unfound rfl rfl fun j tried => ?_
    obtain ⟨positive, small⟩ := Root.mem_windowNumbers.1 tried
    exact passed j positive small

/-- The first window around zero has an end at which this expression cannot be evaluated; Brent's
method is run on the second one. -/
theorem solve_default_second_window :
    let s : Subject := ⟨"x-15+0/(x-10)", "x", .new .degrees .empty, true⟩
    let ts : List Token := [.var "X", .number 15.0, .operator "-" false, .number 0.0, .var "X",
      .number 10.0, .operator "-" false, .operator "/" false, .operator "+" false]
    (parse s.strict s.expression).outcome = .ok ts ∧
      ∃ sampler, (s.sampler .solving).outcome = .ok sampler ∧
        Root.enclosesAt sampler.value 0.0 1 =
          .error (.wrapped .solving "Cannot evaluate at X=10.0" .divisionByZero) ∧
        (solve s { guess := 0.0, tolerance := 1e-8, limit := 100 }).outcome =
          ((Root.brent sampler.value (-20.0) 20.0 1e-8 100).map Root.Ending.root).mapError
            Root.Failure.fault := by
  intro s ts
  have parses : (parse true "x-15+0/(x-10)").outcome = .ok [.var "X", .number 15.0,
      .operator "-" false, .number 0.0, .var "X", .number 10.0, .operator "-" false,
      .operator "/" false, .operator "+" false] := rfl
  obtain ⟨sampler, made, -, -, -, found, -⟩ := solve_default s 0.0 1e-8 100 parses
  obtain rfl : sampler = ⟨s.expression, ts, s.argument, some .solving, Machine.new s.context⟩ :=
    Except.ok.inj (made.symm.trans (Sampler.ofExpression_of_parse parses))
  have first : Root.enclosesAt (Sampler.value ⟨s.expression, ts, s.argument, some .solving,
      Machine.new s.context⟩) 0.0 1 =
        .error (.wrapped .solving "Cannot evaluate at X=10.0" .divisionByZero) := by
    decide +kernel
  refine ⟨parses, _, made, first, found 2 (by decide) (by decide) (by decide +kernel) ?_⟩
  intro j positive before
  obtain rfl : j = 1 := by omega
  exact .inr ⟨_, first, rfl⟩

/-- For a variable whose name is in braces the heading of a fault cannot be filled in.  The
expression has no value anywhere, as it divides by zero; but the search stops at the first window
and does not fall back to Newton's method. -/
theorem solve_default_template :
    let s : Subject := ⟨"1/0", "\x7ba\x7d", .new .degrees .empty, true⟩
    let ts : List Token := [.number 1.0, .number 0.0, .operator "/" false]
    (parse s.strict s.expression).outcome = .ok ts ∧
      (∀ x, evaluatePostfix (s.context.bind s.argument (some x)).1 ts = .error .divisionByZero) ∧
      (solve s { limit := 0 }).outcome = .error (.template (.noWord "a")) ∧
      (solve s { method := "newton", limit := 0 }).outcome =
        .error (.root (.notConverged .newton 0)) := by
  exact ⟨rfl, fun x => rfl, rfl, rfl⟩

end SciCalc
