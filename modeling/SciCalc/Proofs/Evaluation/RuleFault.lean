/-
# SciCalc.Proofs.Evaluation.RuleFault -- the faults that rules raise

A rule fails because its operands are outside a domain, because a divisor is zero, or
because a count is out of range (`Fault.ofRule`).  A rule that has no value says so with
a fault of its own, `Fault.noValue`, and applying the rule puts a named domain in its
place: what the machine applies only fails with faults of the first sort.
-/
import SciCalc.Evaluation.Machine

namespace SciCalc

set_option autoImplicit false

open SciCalc.Number

/-- The faults of rules that are applied to operands. -/
def Fault.ofRule : Fault → Bool
  | outsideDomain .. | powerOutsideDomain .. | notCountable .. | divisionByZero | count _ => true
  | _ => false

/-- An outcome that fails, if it does, as rules do before they are applied. -/
def RuleOutcome {α : Type} (outcome : Except Fault α) : Prop :=
  ∀ fault, outcome = .error fault → fault = .noValue ∨ fault.ofRule = true

namespace RuleOutcome

variable {α β : Type}

theorem ok (x : α) : RuleOutcome (.ok x : Except Fault α) :=
  fun _ failed => by cases failed

theorem noValue : RuleOutcome (.error .noValue : Except Fault α) :=
  fun _ failed => .inl (by cases failed; rfl)

theorem error {fault : Fault} (rule : fault.ofRule = true) :
    RuleOutcome (.error fault : Except Fault α) :=
  fun _ failed => .inr (by cases failed; exact rule)

theorem bind {outcome : Except Fault α} {next : α → Except Fault β} (first : RuleOutcome outcome)
    (rest : ∀ x, RuleOutcome (next x)) : RuleOutcome (outcome >>= next) := by
  cases outcome with
  | ok x => exact rest x
  | error fault => exact fun _ failed => by cases failed; exact first fault rfl

end RuleOutcome

theorem ruleOutcome_orNoValue (value : Option Float) : RuleOutcome (orNoValue value) := by
  cases value with
  | some y => exact .ok y
  | none => exact .noValue

theorem ruleOutcome_countable (name : String) (x : Float) : RuleOutcome (countable name x) := by
  rw [countable]
  split
  · exact .ok _
  · exact .error rfl

theorem ruleOutcome_countOf (name : String) (rule : Nat → Nat → Except CountFault Float)
    (x y : Float) : RuleOutcome (countOf name rule x y) := by
  refine (ruleOutcome_countable name x).bind fun n => (ruleOutcome_countable name y).bind fun r => ?_
  cases rule n r with
  | ok z => exact .ok z
  | error cause => exact .error rfl

theorem ruleOutcome_above (name : String) (outside : Float → Bool) (f : Float → Float)
    (x : Float) : RuleOutcome (above name outside f x) := by
  rw [above]
  split
  · exact .error rfl
  · exact .ok _

namespace Syntax

theorem Operation.ruleOutcome_apply (o : Operation) (operands : List Float) :
    RuleOutcome (o.apply operands) := by
  unfold Operation.apply
  split
  · exact .ok _
  · exact .ok _
  · exact .ok _
  · exact .ok _
  · split
    · exact .error rfl
    · exact .ok _
  · split
    · exact .error rfl
    · exact ruleOutcome_orNoValue _
  · split
    · exact .ok _
    · exact .error rfl
  · exact (ruleOutcome_countable _ _).bind fun _ => .ok _
  · exact .noValue

theorem Fn.ruleOutcome_apply (f : Fn) (arguments : List Float) :
    RuleOutcome (f.apply arguments) := by
  unfold Fn.apply
  split <;>
    first
    | exact .ok _
    | exact ruleOutcome_orNoValue _
    | exact ruleOutcome_above _ _ _ _
    | exact ruleOutcome_countOf _ _ _ _
    | exact .noValue

end Syntax

namespace Machine

open SciCalc.Syntax (Operation Fn)

/-- Blame leaves no fault without a name. -/
theorem ofRule_of_blame {name : String} {arguments : List Float} {outcome : Except Fault Float}
    {fault : Fault} (rule : RuleOutcome outcome)
    (failed : blame name arguments outcome = .error fault) : fault.ofRule = true := by
  cases outcome with
  | ok y => cases failed
  | error cause =>
      rcases rule cause rfl with rfl | known
      · cases failed
        rfl
      · have kept : blame name arguments (.error cause) = .error cause := by
          cases cause <;> first | rfl | cases known
        rw [kept] at failed
        cases failed
        exact known

theorem ofRule_of_applyOperation {symbol : String} {operation : Operation}
    {operands : List Float} {fault : Fault}
    (failed : applyOperation symbol operation operands = .error fault) : fault.ofRule = true :=
  ofRule_of_blame (operation.ruleOutcome_apply operands) failed

theorem ofRule_of_applyFunction {unit : AngleUnit} {name : String} {f : Fn}
    {arguments : List Float} {fault : Fault}
    (failed : applyFunction unit name f arguments = .error fault) : fault.ofRule = true := by
  rw [applyFunction] at failed
  split at failed
  · split at failed
    · cases result : blame name arguments (f.apply arguments) with
      | ok y => rw [result] at failed; cases failed
      | error cause =>
          rw [result] at failed
          cases failed
          exact ofRule_of_blame (f.ruleOutcome_apply arguments) result
    · exact ofRule_of_blame (f.ruleOutcome_apply _) failed
  · exact ofRule_of_blame (f.ruleOutcome_apply arguments) failed

end Machine

end SciCalc
