/-
# SciCalc.Proofs.Evaluation.EvaluationFault -- how evaluation fails

Evaluating an expression, or any list of tokens, gives a number or fails with one of the
evaluation faults, except in one case: counting arrangements or selections can be out of
range (`CountLimit`).  Tokens may name operators, functions and constants that do not exist,
and parentheses and commas may stand where there is nothing for them to group; every token
has its own fault for that (`accounted_step`).  That all numbers of an expression are read
takes an assumption: whatever is taken for a digit can be read as one (`Digits.Agree`).

No rule's fault is taken on trust.  The rules are those of the table (`ofRule_of_applyOperation`,
`ofRule_of_applyFunction`), and of them only the two counts know faults of range
(`Fn.count_of_apply`); blaming a function for its arguments and converting angles keep those
as they are.
-/
import SciCalc.Proofs.Evaluation.RuleFault
import SciCalc.Proofs.Syntax.ParseFault

namespace SciCalc

set_option autoImplicit false

open SciCalc.Number
open SciCalc.Syntax (Token Operation Fn)

/-- A function of counts meets a limit of its own: the number it is asked for cannot be
estimated, or is a product of too many factors. -/
def CountLimit (t : Token) (fault : Fault) : Prop :=
  ∃ (cause : CountFault) (n r : Nat), fault = .count cause ∧
    (t = .function "nPr" ∧ arrangements n r = .error cause ∨
      t = .function "nCr" ∧ selections n r = .error cause)

/-- An evaluation fault, or one that a token among those given accounts for. -/
def Fault.Accounted (ts : List Token) (fault : Fault) : Prop :=
  fault.kind.isEvaluation = true ∨ fault.kind = .range ∧ ∃ t ∈ ts, CountLimit t fault

/-- The faults of rules are evaluation faults and faults of counts. -/
theorem isEvaluation_or_count {fault : Fault} (rule : fault.ofRule = true) :
    fault.kind.isEvaluation = true ∨ ∃ cause, fault = .count cause := by
  cases fault with
  | count cause => exact .inr ⟨cause, rfl⟩
  | outsideDomain _ _ | powerOutsideDomain _ _ | notCountable _ _ | divisionByZero => exact .inl rfl
  | _ => cases rule

/-! ## Where faults of counts come from -/

/-- An outcome that is no fault of counts. -/
def Uncounted {α : Type} (outcome : Except Fault α) : Prop :=
  ∀ cause, outcome ≠ .error (.count cause)

theorem uncounted_ok {α : Type} (x : α) : Uncounted (.ok x : Except Fault α) :=
  fun _ same => by cases same

theorem uncounted_orNoValue (value : Option Float) : Uncounted (orNoValue value) := by
  cases value with
  | some y => exact uncounted_ok y
  | none => exact fun _ same => by cases same

theorem uncounted_countable (name : String) (x : Float) : Uncounted (countable name x) := by
  rw [countable]
  split
  · exact uncounted_ok _
  · exact fun _ same => by cases same

theorem uncounted_above (name : String) (outside : Float → Bool) (f : Float → Float) (x : Float) :
    Uncounted (above name outside f x) := by
  rw [above]
  split
  · exact fun _ same => by cases same
  · exact uncounted_ok _

/-- A count fails with a fault of counts when its rule does. -/
theorem count_of_countOf {name : String} {rule : Nat → Nat → Except CountFault Float} {x y : Float}
    {cause : CountFault} (failed : countOf name rule x y = .error (.count cause)) :
    ∃ n r, rule n r = .error cause := by
  rw [countOf, bind_eq_error] at failed
  rcases failed with first | ⟨n, -, failed⟩
  · exact absurd first (uncounted_countable name x cause)
  rw [bind_eq_error] at failed
  rcases failed with second | ⟨r, -, failed⟩
  · exact absurd second (uncounted_countable name y cause)
  refine ⟨n, r, ?_⟩
  cases result : rule n r with
  | ok z =>
      rw [result] at failed
      cases failed
  | error own =>
      rw [result] at failed
      cases failed
      rfl

namespace Syntax

theorem Operation.uncounted_apply (o : Operation) (operands : List Float) :
    Uncounted (o.apply operands) := by
  unfold Operation.apply
  split
  · exact uncounted_ok _
  · exact uncounted_ok _
  · exact uncounted_ok _
  · exact uncounted_ok _
  · split
    · exact fun _ same => by cases same
    · exact uncounted_ok _
  · split
    · exact fun _ same => by cases same
    · exact uncounted_orNoValue _
  · split
    · exact uncounted_ok _
    · exact fun _ same => by cases same
  · intro cause failed
    rcases bind_eq_error.1 failed with counting | ⟨n, -, product⟩
    · exact uncounted_countable _ _ cause counting
    · cases product
  · exact fun _ same => by cases same

/-- Of the functions, only the two counts have faults of counts. -/
theorem Fn.count_of_apply {f : Fn} {arguments : List Float} {cause : CountFault}
    (failed : f.apply arguments = .error (.count cause)) :
    ∃ n r, f = .arrangements ∧ Number.arrangements n r = .error cause ∨
      f = .selections ∧ Number.selections n r = .error cause := by
  unfold Fn.apply at failed
  split at failed
  case h_19 =>
    obtain ⟨n, r, limit⟩ := count_of_countOf failed
    exact ⟨n, r, .inl ⟨rfl, limit⟩⟩
  case h_20 =>
    obtain ⟨n, r, limit⟩ := count_of_countOf failed
    exact ⟨n, r, .inr ⟨rfl, limit⟩⟩
  all_goals
    first
    | exact absurd failed (uncounted_orNoValue _ cause)
    | exact absurd failed (uncounted_above _ _ _ _ cause)
    | cases failed

end Syntax

namespace Machine

theorem blame_eq_count {name : String} {arguments : List Float} {outcome : Except Fault Float}
    {cause : CountFault} (blamed : blame name arguments outcome = .error (.count cause)) :
    outcome = .error (.count cause) := by
  cases outcome with
  | ok y => cases blamed
  | error fault => cases fault <;> first | exact blamed | cases blamed

theorem count_of_applyFunction {unit : AngleUnit} {name : String} {f : Fn}
    {arguments : List Float} {cause : CountFault}
    (failed : applyFunction unit name f arguments = .error (.count cause)) :
    ∃ operands, f.apply operands = .error (.count cause) := by
  rw [applyFunction] at failed
  split at failed
  · split at failed
    · cases result : blame name arguments (f.apply arguments) with
      | ok y =>
          rw [result] at failed
          cases failed
      | error fault =>
          rw [result] at failed
          cases failed
          exact ⟨arguments, blame_eq_count result⟩
    · exact ⟨arguments.map unit.toRadians, blame_eq_count failed⟩
  · exact ⟨arguments, blame_eq_count failed⟩

end Machine

/-! ## A token, a run, an expression -/

/-- A function with one name has that name. -/
theorem Syntax.Fn.eq_of_ofName? {f : Fn} {only : String}
    (single : (Fn.names.all fun entry => entry.2 != f || entry.1 == only) = true) {name : String}
    (entry : Fn.ofName? name = some f) : name = only := by
  obtain ⟨front, behind, whole, -⟩ := List.lookup_eq_some_iff.1 entry
  have member : (name, f) ∈ Fn.names := by
    rw [whole]
    exact List.mem_append_right front List.mem_cons_self
  have own := List.all_eq_true.1 single _ member
  simpa using own

/-- Where a fault is accounted for by one of some tokens, it is by one of more. -/
theorem Fault.Accounted.of_subset {fault : Fault} {ts us : List Token}
    (accounted : fault.Accounted ts) (among : ∀ t ∈ ts, t ∈ us) : fault.Accounted us := by
  rcases accounted with evaluation | ⟨range, t, inside, limit⟩
  · exact .inl evaluation
  · exact .inr ⟨range, t, among t inside, limit⟩

namespace Machine

/-- An operator's faults are evaluation faults. -/
theorem isEvaluation_of_applyOperation {symbol : String} {operation : Operation}
    {operands : List Float} {fault : Fault}
    (failed : applyOperation symbol operation operands = .error fault) :
    fault.kind.isEvaluation = true := by
  rcases isEvaluation_or_count (ofRule_of_applyOperation failed) with evaluation | ⟨cause, rfl⟩
  · exact evaluation
  · exact absurd (blame_eq_count failed) (operation.uncounted_apply operands cause)

/-- A function's faults are evaluation faults, or the function counts and meets its limit. -/
theorem accounted_applyFunction {unit : AngleUnit} {name : String} {f : Fn}
    (entry : Fn.ofName? name = some f) {arguments : List Float} {fault : Fault}
    (failed : applyFunction unit name f arguments = .error fault) :
    fault.Accounted [.function name] := by
  rcases isEvaluation_or_count (ofRule_of_applyFunction failed) with evaluation | ⟨cause, rfl⟩
  · exact .inl evaluation
  · obtain ⟨operands, applied⟩ := count_of_applyFunction failed
    obtain ⟨n, r, limit⟩ := Fn.count_of_apply applied
    refine .inr ⟨rfl, .function name, List.mem_singleton_self _, cause, n, r, rfl, ?_⟩
    rcases limit with ⟨rfl, limit⟩ | ⟨rfl, limit⟩
    · exact .inl ⟨congrArg _ (Fn.eq_of_ofName? (by decide) entry), limit⟩
    · exact .inr ⟨congrArg _ (Fn.eq_of_ofName? (by decide) entry), limit⟩

theorem isEvaluation_of_pop {stack : List Float} {needed : Nat} {consumer : String} {halt : Halt}
    (failed : pop stack needed consumer = .error halt) : halt.fault.kind.isEvaluation = true := by
  rw [pop] at failed
  split at failed <;> cases failed
  rfl

theorem error_of_push {outcome : Except Fault Float} {stack : List Float} {halt : Halt}
    (failed : push outcome stack = .error halt) : outcome = .error halt.fault := by
  cases outcome <;> cases failed
  rfl

theorem isEvaluation_of_lookup {context : Context} {name : String} {fault : Fault}
    (failed : context.lookup name = .error fault) : fault.kind.isEvaluation = true := by
  rw [Context.lookup] at failed
  split at failed <;> cases failed
  rfl

/-- Whatever the token and whatever is on the stack, the token accounts for its fault. -/
theorem accounted_step {context : Context} {stack : List Float} {t : Token} {halt : Halt}
    (failed : step context stack t = .error halt) : halt.fault.Accounted [t] := by
  cases t with
  | number x => cases failed
  | lparen | rparen | comma =>
      cases failed
      exact .inl rfl
  | var name =>
      rw [step] at failed
      exact .inl (isEvaluation_of_lookup (error_of_push failed))
  | constant name =>
      rw [step] at failed
      split at failed <;> cases failed
      exact .inl rfl
  | operator symbol unary =>
      rw [step] at failed
      split at failed
      · rcases bind_eq_error.1 failed with short | ⟨⟨operands, below⟩, -, applied⟩
        · exact .inl (isEvaluation_of_pop short)
        · exact .inl (isEvaluation_of_applyOperation (error_of_push applied))
      · cases failed
        exact .inl rfl
  | function name =>
      rw [step] at failed
      split at failed
      · rename_i f entry
        rcases bind_eq_error.1 failed with short | ⟨⟨arguments, below⟩, -, applied⟩
        · exact .inl (isEvaluation_of_pop short)
        · exact accounted_applyFunction entry (error_of_push applied)
      · cases failed
        exact .inl rfl

theorem accounted_foldlM {context : Context} {ts : List Token} {stack : List Float} {halt : Halt}
    (failed : ts.foldlM (step context) stack = .error halt) : halt.fault.Accounted ts := by
  induction ts generalizing stack with
  | nil => cases failed
  | cons t ts ih =>
      rw [List.foldlM_cons, bind_eq_error] at failed
      rcases failed with first | ⟨further, -, later⟩
      · exact (accounted_step first).of_subset fun u inside =>
          List.mem_singleton.1 inside ▸ List.mem_cons_self
      · exact (ih later).of_subset fun u inside => List.mem_cons_of_mem t inside

end Machine

theorem accounted_evaluatePostfix {context : Context} {ts : List Token} {fault : Fault}
    (failed : evaluatePostfix context ts = .error fault) : fault.Accounted ts := by
  rw [evaluatePostfix, Machine.run] at failed
  split at failed
  · cases failed
  · cases failed
    exact .inl rfl
  · rename_i halt halted
    cases failed
    exact Machine.accounted_foldlM halted

/-- The outcome of evaluating an expression is that of its tokens in postfix order. -/
theorem outcome_evaluate [Syntax.Digits] (context : Context) (strict : Bool) (expression : String) :
    (evaluate context strict expression).outcome =
      (Syntax.parse strict expression).outcome >>= evaluatePostfix context := by
  rw [evaluate, Report.outcome_bind]
  congr
  funext ts
  cases evaluatePostfix context ts <;> rfl

/-- Where a younger digit, the Kawi one, is found but cannot be read, the number ends the
evaluation with a fault of another kind. -/
example :
    let younger : Syntax.Digits := ⟨fun c => Text.isDigit c || c.toNat == 0x11F51⟩
    (@evaluate younger (.new .degrees .empty) true "1+𑽑").outcome =
        .error (.unreadNumber "𑽑") ∧
      (Fault.unreadNumber "𑽑").kind.isEvaluation = false := by
  decide +kernel

end SciCalc
