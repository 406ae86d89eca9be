/-
# SciCalc.Proofs.TaskFault -- what becomes of evaluation faults in numerical tasks

Solving and integrating turn an expression into a function of one variable and sample it
wherever their algorithms ask.  An expression that cannot be parsed, or has no value at a
point, is an evaluation fault; none of them leaves a task as it is (`never_evaluation`).

The algorithms do not look into the causes of failed samples, so it is enough to look at the
place where a sample fails.  There the fault is that of the tokens on a fresh machine
(`Subject.bare`), and the task tells it under a heading that names the point
(`Subject.reported`); a trouble of the algorithm's own keeps its form.  `Surfaces` says this
of a task as a whole: its outcome is that of its algorithm on the bare function, with the
failure told in this way, and a fault under a heading is one that the expression has at the
point named there.

A heading is a template that names the variable, so the variable's name must have no brace;
then the name it is bound under has none either (`plain_bindingName`).
-/
import SciCalc.Integrate
import SciCalc.Proofs.Evaluation.EvaluationFault
import SciCalc.Proofs.Evaluation.Sampling
import SciCalc.Proofs.Quadrature.SampleCause
import SciCalc.Proofs.Root.SampleCause

namespace SciCalc

set_option autoImplicit false

open SciCalc.Number (shortest)
open SciCalc.Syntax (Token parse)

/-! ## Names without braces -/

/-- A name that stands for itself in a template. -/
def Plain (name : String) : Prop := ∀ c ∈ name.toList, c ≠ '\x7b' ∧ c ≠ '\x7d'

theorem plain_upper {c d : Char} (plain : c ≠ '\x7b' ∧ c ≠ '\x7d') (inside : d ∈ Text.upper c) :
    d ≠ '\x7b' ∧ d ≠ '\x7d' := by
  have code {brace : Char} (other : c ≠ brace) : c.toNat ≠ brace.toNat :=
    fun same => other (Char.toNat_inj.1 same)
  have opening := Text.toNat_ne_of_mem_upper (by decide) (by decide +kernel) (by decide +kernel)
    (code plain.1) inside
  have closing := Text.toNat_ne_of_mem_upper (by decide) (by decide +kernel) (by decide +kernel)
    (code plain.2) inside
  exact ⟨fun same => opening (congrArg Char.toNat same),
    fun same => closing (congrArg Char.toNat same)⟩

theorem plain_bindingName {name : String} (plain : Plain name) : Plain (bindingName name) := by
  rw [bindingName]
  split
  · rename_i c single
    intro d inside
    rw [String.toList_ofList] at inside
    exact plain_upper (plain c (by rw [single]; exact List.mem_singleton_self c)) inside
  · exact plain

/-! ## A fault of a task -/

namespace Layer

/-- The kind of fault that a task reports evaluation faults as. -/
def kind : Layer → Kind
  | solving => .solving
  | integrating => .integrating

end Layer

theorem kind_wrapped (layer : Layer) (heading : String) (cause : Fault) :
    (Fault.wrapped layer heading cause).kind = layer.kind := by
  cases layer <;> rfl

/-- The point of a sample that failed, and the fault of the expression there. -/
structure Met where
  point : Float
  fault : Fault

namespace Subject

/-- What tokens give at a point of the subject's variable on a fresh machine. -/
def bare (s : Subject) (ts : List Token) (x : Float) : Except Met Float :=
  (evaluatePostfix (s.context.bind s.argument (some x)).1 ts).mapError (Met.mk x)

/-- How a task tells of a sample that failed: evaluation faults under a heading, all others
as they are. -/
def reported (s : Subject) (layer : Layer) (met : Met) : Fault :=
  if met.fault.kind.isEvaluation then
    .wrapped layer ("Cannot evaluate at " ++ bindingName s.argument ++ "=" ++ shortest met.point)
      met.fault
  else met.fault

/-- The fault behind a failed root finder, whose own troubles are not wrapped. -/
def rootFault (s : Subject) : Root.Failure Float Met → Fault
  | .sample met => s.reported .solving met
  | .trouble cause => .root cause

/-- The fault behind a failed integration rule, whose own troubles are not wrapped. -/
def quadratureFault (s : Subject) : Quadrature.Failure Float Met → Fault
  | .sample met => s.reported .integrating met
  | .trouble cause => .quadrature cause

variable {s : Subject} {layer : Layer}

theorem not_isEvaluation_reported (met : Met) :
    (s.reported layer met).kind.isEvaluation = false := by
  rw [reported]
  split
  · rw [kind_wrapped]
    cases layer <;> rfl
  · rename_i other
    simpa using other

theorem not_isEvaluation_rootFault (failure : Root.Failure Float Met) :
    (s.rootFault failure).kind.isEvaluation = false := by
  cases failure with
  | sample met => exact not_isEvaluation_reported met
  | trouble cause =>
      cases cause with
      | parts cause => cases cause <;> rfl
      | _ => rfl

theorem not_isEvaluation_quadratureFault (failure : Quadrature.Failure Float Met) :
    (s.quadratureFault failure).kind.isEvaluation = false := by
  cases failure with
  | sample met => exact not_isEvaluation_reported met
  | trouble cause =>
      cases cause with
      | parts cause => cases cause <;> rfl
      | _ => rfl

/-- A sampler reports a fault of the expression as `reported` says. -/
theorem report_evaluating (plain : Plain s.argument) (x : Float) (fault : Fault) :
    Sampler.report (some layer) (.evaluating (bindingName s.argument) x) fault =
      s.reported layer ⟨x, fault⟩ := by
  have heading := Occasion.heading_evaluating (bindingName s.argument) x (plain_bindingName plain)
  rw [Sampler.report, Fault.wrapIn, reported, heading]

/-- Whatever points a sampler is called at, it is the bare function with its faults
reported. -/
theorem value_sampler (plain : Plain s.argument) (ts : List Token) :
    Sampler.value ⟨s.expression, ts, s.argument, some layer, Machine.new s.context⟩ =
      retold (s.reported layer) (s.bare ts) := by
  funext x
  obtain ⟨stack, called⟩ := Sampler.call_eq
    ⟨s.expression, ts, s.argument, some layer, Machine.new s.context⟩ x
  rw [Sampler.value, called, retold, bare, mapError_mapError]
  exact congrArg (Except.mapError · _) (funext fun fault => report_evaluating plain x fault)

end Subject

/-! ## A task -/

/-- How a task that samples an expression ends.  It has the outcome of an algorithm on the
bare function, a failure told as `tell` says; an expression that cannot be parsed is told
under a heading that quotes it.  No evaluation fault is among what can be told; what is told
under a heading is one, met by the expression at the point in the heading. -/
structure Surfaces {φ β : Type} (s : Subject) (layer : Layer) (tell : φ → Fault)
    (algorithm : (Float → Except Met Float) → Except φ β) (outcome : Except Fault β) : Prop where
  unparsed : ∀ cause, (parse s.strict s.expression).outcome = .error cause →
    cause.kind.isEvaluation = true ∧
      outcome = .error (.wrapped layer ("Cannot parse " ++ Text.quoted s.expression) cause)
  parsed : ∀ ts, (parse s.strict s.expression).outcome = .ok ts →
    outcome = (algorithm (s.bare ts)).mapError tell
  never_evaluation : ∀ fault, outcome = .error fault → fault.kind.isEvaluation = false
  met : ∀ ts, (parse s.strict s.expression).outcome = .ok ts →
    ∀ own heading cause, outcome = .error (.wrapped own heading cause) →
      own = layer ∧ cause.kind.isEvaluation = true ∧ ∃ x,
        heading = "Cannot evaluate at " ++ bindingName s.argument ++ "=" ++ shortest x ∧
          evaluatePostfix (s.context.bind s.argument (some x)).1 ts = .error cause

/-- How an algorithm's failure is told: that of a sample as the task reports it, one of the
algorithm's own under no heading. -/
def Tells {φ β : Type} (s : Subject) (layer : Layer) (tell : φ → Fault)
    (algorithm : (Float → Except Met Float) → Except φ β) : Prop :=
  ∀ f failure, algorithm f = .error failure → (tell failure).kind.isEvaluation = false ∧
    ((tell failure).cause? = none ∨ ∃ x met, f x = .error met ∧ tell failure = s.reported layer met)

section Tasks

variable {s : Subject}

/-- An expression that cannot be parsed makes no sampler, and the fault is one of evaluation. -/
theorem outcome_sampler_of_unparsed (layer : Layer) {cause : Fault}
    (unparsed : (parse s.strict s.expression).outcome = .error cause) :
    cause.kind.isEvaluation = true ∧ (s.sampler layer).outcome =
      .error (.wrapped layer ("Cannot parse " ++ Text.quoted s.expression) cause) := by
  have evaluation : cause.kind.isEvaluation = true := by
    rcases Syntax.ofParsing_of_parse Syntax.Digits.agree_table unparsed with malformed | arity
    · rw [malformed]
      rfl
    · rw [arity]
      rfl
  have wrapped : Sampler.report (some layer) (.parsing s.expression) cause =
      .wrapped layer ("Cannot parse " ++ Text.quoted s.expression) cause := by
    rw [Sampler.report, Fault.wrapIn, if_pos evaluation]
    rfl
  refine ⟨evaluation, ?_⟩
  rw [Subject.sampler, Sampler.ofExpression, Report.outcome_bind, Report.relabel, unparsed,
    mapError_error, wrapped]
  rfl

/-- No fault of evaluating tokens has a cause of its own. -/
theorem cause?_of_evaluatePostfix {context : Context} {ts : List Token} {fault : Fault}
    (failed : evaluatePostfix context ts = .error fault) : fault.cause? = none := by
  cases fault with
  | wrapped layer heading cause =>
      rcases accounted_evaluatePostfix failed with evaluation | ⟨range, -⟩
      · rw [kind_wrapped] at evaluation
        cases layer <;> cases evaluation
      · rw [kind_wrapped] at range
        cases layer <;> cases range
  | _ => rfl

/-- A sample told under a heading failed with an evaluation fault at the point named. -/
theorem met_of_reported {layer own : Layer} {ts : List Token} {x : Float} {met : Met}
    {heading : String} {cause : Fault} (sampled : s.bare ts x = .error met)
    (told : s.reported layer met = .wrapped own heading cause) :
    own = layer ∧ cause.kind.isEvaluation = true ∧
      heading = "Cannot evaluate at " ++ bindingName s.argument ++ "=" ++ shortest x ∧
        evaluatePostfix (s.context.bind s.argument (some x)).1 ts = .error cause := by
  rw [Subject.bare] at sampled
  cases value : evaluatePostfix (s.context.bind s.argument (some x)).1 ts with
  | ok y =>
      rw [value] at sampled
      cases sampled
  | error fault =>
      rw [value, mapError_error] at sampled
      cases sampled
      by_cases evaluation : fault.kind.isEvaluation = true
      · rw [Subject.reported, if_pos evaluation] at told
        cases told
        exact ⟨rfl, evaluation, rfl, rfl⟩
      · rw [Subject.reported, if_neg evaluation] at told
        obtain rfl : fault = .wrapped own heading cause := told
        cases cause?_of_evaluatePostfix value

/-- A task surfaces its faults if it tells them as it should on every sampler that is the
bare function with its faults reported. -/
theorem surfaces_of_sampler {φ β : Type} {layer : Layer} {tell : φ → Fault}
    {algorithm : (Float → Except Met Float) → Except φ β} {task : Sampler → Calc β}
    (plain : Plain s.argument) (tells : Tells s layer tell algorithm)
    (natural : ∀ sampler f, sampler.value = retold (s.reported layer) f →
      (task sampler).outcome = (algorithm f).mapError tell) :
    Surfaces s layer tell algorithm (s.sampler layer >>= task).outcome := by
  have unparsed (cause : Fault) (unread : (parse s.strict s.expression).outcome = .error cause) :
      cause.kind.isEvaluation = true ∧ (s.sampler layer >>= task).outcome =
        .error (.wrapped layer ("Cannot parse " ++ Text.quoted s.expression) cause) := by
    obtain ⟨evaluation, ended⟩ := outcome_sampler_of_unparsed layer unread
    exact ⟨evaluation, Report.outcome_bind_error _ _ _ ended⟩
  have parsed (ts : List Token) (parses : (parse s.strict s.expression).outcome = .ok ts) :
      (s.sampler layer >>= task).outcome = (algorithm (s.bare ts)).mapError tell := by
    rw [Subject.sampler, Report.outcome_bind_ok _ _ _ (Sampler.ofExpression_of_parse parses)]
    exact natural _ _ (Subject.value_sampler plain ts)
  have failing (ts : List Token) (parses : (parse s.strict s.expression).outcome = .ok ts)
      (fault : Fault) (failed : (s.sampler layer >>= task).outcome = .error fault) :
      ∃ failure, algorithm (s.bare ts) = .error failure ∧ tell failure = fault := by
    rw [parsed ts parses] at failed
    cases ran : algorithm (s.bare ts) with
    | ok y =>
        rw [ran] at failed
        cases failed
    | error failure =>
        rw [ran, mapError_error] at failed
        cases failed
        exact ⟨failure, rfl, rfl⟩
  refine ⟨unparsed, parsed, fun fault failed => ?_, fun ts parses own heading cause failed => ?_⟩
  · cases reading : (parse s.strict s.expression).outcome with
    | error cause =>
        rw [(unparsed cause reading).2] at failed
        cases failed
        rw [kind_wrapped]
        cases layer <;> rfl
    | ok ts =>
        obtain ⟨failure, ran, rfl⟩ := failing ts reading fault failed
        exact (tells _ failure ran).1
  · obtain ⟨failure, ran, told⟩ := failing ts parses _ failed
    rcases (tells _ failure ran).2 with ownTrouble | ⟨x, met, sampled, reported⟩
    · rw [told] at ownTrouble
      cases ownTrouble
    · obtain ⟨same, evaluation, named, value⟩ := met_of_reported sampled (reported.symm.trans told)
      exact ⟨same, evaluation, x, named, value⟩

/-- A root finder's failures are told as they should be if its causes are those of samples. -/
theorem tells_rootFault {β : Type}
    {algorithm : (Float → Except Met Float) → Except (Root.Failure Float Met) β}
    (causes : ∀ f cause, algorithm f = .error (.sample cause) → ∃ x, f x = .error cause) :
    Tells s .solving s.rootFault algorithm := by
  intro f failure failed
  refine ⟨Subject.not_isEvaluation_rootFault failure, ?_⟩
  cases failure with
  | trouble cause => exact .inl rfl
  | sample met =>
      obtain ⟨x, sampled⟩ := causes f met failed
      exact .inr ⟨x, met, sampled, rfl⟩

theorem tells_quadratureFault {β : Type}
    {algorithm : (Float → Except Met Float) → Except (Quadrature.Failure Float Met) β}
    (causes : ∀ f cause, algorithm f = .error (.sample cause) → ∃ x, f x = .error cause) :
    Tells s .integrating s.quadratureFault algorithm := by
  intro f failure failed
  refine ⟨Subject.not_isEvaluation_quadratureFault failure, ?_⟩
  cases failure with
  | trouble cause => exact .inl rfl
  | sample met =>
      obtain ⟨x, sampled⟩ := causes f met failed
      exact .inr ⟨x, met, sampled, rfl⟩

theorem outcome_solveReport {β : Type} (search : Root.Search Float Fault β)
    (run : Except (Root.Failure Float Met) β)
    (same : search.outcome = run.mapError (Root.Failure.retell (s.reported .solving))) :
    (Solve.report search).outcome = run.mapError s.rootFault := by
  have told : Root.Failure.fault ∘ Root.Failure.retell (s.reported .solving) = s.rootFault := by
    funext failure
    cases failure <;> rfl
  show search.outcome.mapError Root.Failure.fault = _
  rw [same, mapError_mapError, told]

theorem outcome_integrateReport {β : Type}
    (rule : Report (Quadrature.Event Float Fault) (Quadrature.Failure Float Fault) β)
    (run : Except (Quadrature.Failure Float Met) β)
    (same : rule.outcome = run.mapError (Quadrature.Failure.retell (s.reported .integrating))) :
    (Integrate.report rule).outcome = run.mapError s.quadratureFault := by
  have told : Quadrature.Failure.fault ∘ Quadrature.Failure.retell (s.reported .integrating) =
      s.quadratureFault := by
    funext failure
    cases failure <;> rfl
  show rule.outcome.mapError Quadrature.Failure.fault = _
  rw [same, mapError_mapError, told]

/-- Solving by a method that there is surfaces its faults. -/
theorem surfaces_solve (plain : Plain s.argument) (o : Solve.Options) {method : Root.Method}
    (known : Root.Method.ofName? o.method = some method) :
    Surfaces s .solving s.rootFault
      (fun f => (Root.solve f (Solve.passesOver ∘ s.reported .solving) (o.setting method)).outcome)
      (solve s o).outcome := by
  have named : (solve s o).outcome = (s.sampler .solving >>= fun sampler => do
      Report.note (.solving s.expression s.argument method)
      Solve.report (Root.solve sampler.value Solve.passesOver (o.setting method))).outcome := by
    rw [solve, known]
    rfl
  rw [named]
  refine surfaces_of_sampler plain (tells_rootFault fun f cause => Root.cause_of_solve)
    fun sampler f same => ?_
  rw [Report.outcome_note_bind, same]
  exact outcome_solveReport _ _ (Root.outcome_solve_retold _ f Solve.passesOver _)

theorem surfaces_findRoots (plain : Plain s.argument) (a b : Float) (divisions : Int)
    (tolerance : Float) (limit : Int) :
    Surfaces s .solving s.rootFault
      (fun f => (Root.findAll f (Solve.passesOver ∘ s.reported .solving) a b divisions tolerance
        limit).outcome)
      (findRoots s a b divisions tolerance limit).outcome := by
  refine surfaces_of_sampler plain (tells_rootFault fun f cause => Root.cause_of_findAll)
    fun sampler f same => ?_
  rw [same]
  exact outcome_solveReport _ _ (Root.outcome_findAll_retold _ f Solve.passesOver _ _ _ _ _)

/-- Every integration rule surfaces its faults, since the failures of its samples can be told
at its end. -/
theorem surfaces_rule {β : Type} {algorithm : (Float → Except Met Float) →
      Except (Quadrature.Failure Float Met) β} (plain : Plain s.argument)
    (rule : (Float → Except Fault Float) →
      Report (Quadrature.Event Float Fault) (Quadrature.Failure Float Fault) β)
    (causes : ∀ f cause, algorithm f = .error (.sample cause) → ∃ x, f x = .error cause)
    (natural : ∀ f, (rule (retold (s.reported .integrating) f)).outcome =
      (algorithm f).mapError (Quadrature.Failure.retell (s.reported .integrating))) :
    Surfaces s .integrating s.quadratureFault algorithm
      (s.sampler .integrating >>= fun sampler => Integrate.report (rule sampler.value)).outcome := by
  refine surfaces_of_sampler plain (tells_quadratureFault causes) fun sampler f same => ?_
  rw [same]
  exact outcome_integrateReport _ _ (natural f)

end Tasks

/-- **No evaluation fault leaves a numerical task.**  Whatever the expression, the context and
the options, solving, finding all roots, integrating by any rule and listing discontinuities
surface their faults, those of their algorithms unwrapped.  A method that does not exist, or a
number of panels below one, is refused before the expression is looked at. -/
theorem tasks_surface (s : Subject) (plain : ∀ c ∈ s.argument.toList, c ≠ '\x7b' ∧ c ≠ '\x7d') :
    (∀ (o : Solve.Options) (method : Root.Method), Root.Method.ofName? o.method = some method →
      Surfaces s .solving s.rootFault
        (fun f => (Root.solve f (Solve.passesOver ∘ s.reported .solving)
          (o.setting method)).outcome)
        (solve s o).outcome) ∧
    (∀ o : Solve.Options, Root.Method.ofName? o.method = none →
      (solve s o).outcome = .error (.unknownMethod o.method)) ∧
    (∀ (a b : Float) (divisions : Int) (tolerance : Float) (limit : Int),
      Surfaces s .solving s.rootFault
        (fun f => (Root.findAll f (Solve.passesOver ∘ s.reported .solving) a b divisions tolerance
          limit).outcome)
        (findRoots s a b divisions tolerance limit).outcome) ∧
    (∀ (a b tolerance : Float) (depth : Int),
      Surfaces s .integrating s.quadratureFault
        (fun f => (Quadrature.integrate f a b tolerance depth (some Integrate.deepest)).outcome)
        (integrate s a b tolerance depth).outcome) ∧
    (∀ a b : Float,
      Surfaces s .integrating s.quadratureFault (fun f => Quadrature.simpson f a b)
        (simpson s a b).outcome) ∧
    (∀ (a b : Float) (panels : Int), 1 ≤ panels →
      Surfaces s .integrating s.quadratureFault (fun f => Quadrature.trapezoid f a b panels)
        (trapezoid s a b panels).outcome) ∧
    (∀ (a b : Float) (panels : Int), panels < 1 →
      (trapezoid s a b panels).outcome = .error (.quadrature (.noPanels panels))) ∧
    (∀ (a b : Float) (rows : Int) (tolerance : Float),
      Surfaces s .integrating s.quadratureFault
        (fun f => (Quadrature.romberg f a b rows tolerance).outcome)
        (romberg s a b rows tolerance).outcome) ∧
    (∀ (a b : Float) (samples : Int),
      Surfaces s .integrating s.quadratureFault
        (fun f => (Quadrature.discontinuities f
          (Integrate.passesOver ∘ s.reported .integrating) a b samples).outcome)
        (discontinuities s a b samples).outcome) ∧
    ∀ (layer : Layer) (heading : String) (cause : Fault),
      (Fault.wrapped layer heading cause).kind = layer.kind ∧
        (Fault.wrapped layer heading cause).cause? = some cause ∧
        (Fault.wrapped layer heading cause).message = heading ++ ": " ++ cause.message := by
  refine ⟨fun o method => surfaces_solve plain o, fun o unknown => ?_, surfaces_findRoots plain,
    fun a b tolerance depth => ?_, fun a b => ?_, fun a b panels enough => ?_,
    fun a b panels few => ?_, fun a b rows tolerance => ?_, fun a b samples => ?_,
    fun layer heading cause => ⟨kind_wrapped layer heading cause, rfl, rfl⟩⟩
  · rw [solve, unknown]
    rfl
  · exact surfaces_rule plain
      (fun f => Quadrature.integrate f a b tolerance depth (some Integrate.deepest))
      (fun f cause => Quadrature.cause_of_integrate) fun f =>
        Quadrature.outcome_integrate_retold _ f _ _ _ _ _
  · exact surfaces_rule plain (fun f => Report.ofExcept (Quadrature.simpson f a b))
      (fun f cause => Quadrature.cause_of_simpson) fun f => Quadrature.simpson_retold _ f _ _
  · have checked : Quadrature.checkPanels (α := Float) (ε := Fault) panels = .ok () :=
      if_neg (by omega)
    have behind : (trapezoid s a b panels).outcome =
        (s.sampler .integrating >>= fun sampler => Integrate.report
          (Report.ofExcept (Quadrature.trapezoid sampler.value a b panels))).outcome := by
      rw [trapezoid, checked]
      rfl
    rw [behind]
    exact surfaces_rule plain (fun f => Report.ofExcept (Quadrature.trapezoid f a b panels))
      (fun f cause => Quadrature.cause_of_trapezoid) fun f => Quadrature.trapezoid_retold _ f _ _ _
  · have refused : Quadrature.checkPanels (α := Float) (ε := Fault) panels =
        .error (.trouble (.noPanels panels)) := if_pos few
    rw [trapezoid, refused]
    rfl
  · exact surfaces_rule plain (fun f => Quadrature.romberg f a b rows tolerance)
      (fun f cause => Quadrature.cause_of_romberg) fun f =>
        Quadrature.outcome_romberg_retold _ f _ _ _ _
  · exact surfaces_rule plain
      (fun f => Quadrature.discontinuities f Integrate.passesOver a b samples)
      (fun f cause => Quadrature.cause_of_discontinuities) fun f =>
        Quadrature.outcome_discontinuities_retold _ f _ _ _ _

/-- Newton's method for `1/x` from zero cannot evaluate its first sample. -/
theorem tasks_surface_pole :
    let s : Subject := ⟨"1/x", "x", .new .degrees .empty, true⟩
    (∀ c ∈ s.argument.toList, c ≠ '\x7b' ∧ c ≠ '\x7d') ∧
      (solve s { method := "newton" }).outcome =
        .error (.wrapped .solving "Cannot evaluate at X=0.0" .divisionByZero) ∧
      (Fault.wrapped .solving "Cannot evaluate at X=0.0" .divisionByZero).message =
        "Cannot evaluate at X=0.0: Division by zero" := by
  intro s
  have plain : ∀ c ∈ s.argument.toList, c ≠ '\x7b' ∧ c ≠ '\x7d' := by
    intro c inside
    have single : s.argument.toList = ['x'] := by decide +kernel
    rw [single] at inside
    rw [List.mem_singleton.1 inside]
    decide
  have parses : (parse true "1/x").outcome =
      .ok [.number 1.0, .var "X", .operator "/" false] := rfl
  have sampled : (Root.solve (s.bare [.number 1.0, .var "X", .operator "/" false])
      (Solve.passesOver ∘ s.reported .solving)
      (Solve.Options.setting { method := "newton" } .newton)).outcome =
        .error (.sample ⟨0.0, .divisionByZero⟩) := by
    subst s
    rfl
  have heading : "Cannot evaluate at " ++ bindingName "x" ++ "=" ++ shortest 0.0 =
      "Cannot evaluate at X=0.0" := by
    decide +kernel
  obtain ⟨solved, -, -, -, -, -, -, -, -, told⟩ := tasks_surface s plain
  refine ⟨plain, ?_, (told .solving _ .divisionByZero).2.2⟩
  rw [(solved { method := "newton" } .newton rfl).parsed _ parses]
  rw [sampled, mapError_error, ← heading]
  rfl

end SciCalc
