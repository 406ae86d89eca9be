/-
# SciCalc.Proofs.Evaluation.StackDepth -- the stack is as deep as the tokens say

A machine that has come through postfix tokens has as many values on its stack as the
tokens alone tell, and was never short of one (`depthAfter_of_foldlM`).  So tokens that
have a value leave exactly one (`depthAfter_of_evaluatePostfix`).
-/
import SciCalc.Evaluation.Machine
import SciCalc.Proofs.Outcome
import SciCalc.Syntax.Depth

namespace SciCalc

set_option autoImplicit false

open SciCalc.Syntax (Token Operation Fn depthAfter)

namespace Machine

variable {context : Context} {stack after : List Float} {t : Token} {ts : List Token}

theorem pop_eq_ok {needed : Nat} {consumer : String} {operands below : List Float}
    (popped : pop stack needed consumer = .ok (operands, below)) :
    needed ≤ stack.length ∧ below = stack.drop needed := by
  rw [pop] at popped
  split at popped <;> cases popped
  exact ⟨Nat.le_of_not_lt ‹_›, rfl⟩

theorem push_eq_ok {outcome : Except Fault Float} {below : List Float}
    (pushed : push outcome below = .ok after) : ∃ x, after = x :: below := by
  cases outcome <;> cases pushed
  exact ⟨_, rfl⟩

/-- What takes its operands from the stack leaves one value for them. -/
theorem depth_of_applied {needed : Nat} {consumer : String}
    {rule : List Float → Except Fault Float}
    (applied : (do
      let (operands, below) ← pop stack needed consumer
      push (rule operands) below) = .ok after) :
    needed ≤ stack.length ∧ after.length = stack.length - needed + 1 := by
  obtain ⟨⟨operands, below⟩, popped, pushed⟩ := bind_eq_ok.1 applied
  obtain ⟨enough, rfl⟩ := pop_eq_ok popped
  obtain ⟨x, rfl⟩ := push_eq_ok pushed
  exact ⟨enough, by rw [List.length_cons, List.length_drop]⟩

/-- A token that comes through found what it needs, and has left one value for it. -/
theorem depth_of_step (stepped : step context stack t = .ok after) :
    ∃ needed, t.needs? = some needed ∧ needed ≤ stack.length ∧
      after.length = stack.length - needed + 1 := by
  cases t with
  | number x =>
      cases stepped
      exact ⟨0, rfl, Nat.zero_le _, rfl⟩
  | var name =>
      obtain ⟨x, rfl⟩ := push_eq_ok stepped
      exact ⟨0, rfl, Nat.zero_le _, rfl⟩
  | constant name =>
      rw [step] at stepped
      cases entry : Syntax.constant? name with
      | none =>
          rw [entry] at stepped
          cases stepped
      | some x =>
          rw [entry] at stepped
          cases stepped
          exact ⟨0, by rw [Token.needs?, entry]; rfl, Nat.zero_le _, rfl⟩
  | operator symbol unary =>
      rw [step] at stepped
      cases entry : Token.operationOf? symbol unary with
      | none =>
          rw [entry] at stepped
          cases stepped
      | some operation =>
          rw [entry] at stepped
          exact ⟨operation.arity, by rw [Token.needs?, entry]; rfl, depth_of_applied stepped⟩
  | function name =>
      rw [step] at stepped
      cases entry : Fn.ofName? name with
      | none =>
          rw [entry] at stepped
          cases stepped
      | some f =>
          rw [entry] at stepped
          exact ⟨f.arity, by rw [Token.needs?, entry]; rfl, depth_of_applied stepped⟩
  | lparen | rparen | comma => cases stepped

theorem depthAfter_of_foldlM (ran : ts.foldlM (step context) stack = .ok after) :
    depthAfter stack.length ts = .ok after.length := by
  induction ts generalizing stack with
  | nil =>
      cases ran
      rfl
  | cons t ts ih =>
      rw [List.foldlM_cons] at ran
      obtain ⟨next, stepped, further⟩ := bind_eq_ok.1 ran
      obtain ⟨needed, needs, enough, depth⟩ := depth_of_step stepped
      rw [depthAfter, needs, Option.getD_some, if_neg (Nat.not_lt.2 enough), ← depth]
      exact ih further

end Machine

/-- Tokens that have a value find all their operands and leave nothing else. -/
theorem depthAfter_of_evaluatePostfix {context : Context} {ts : List Token} {x : Float}
    (evaluated : evaluatePostfix context ts = .ok x) : depthAfter 0 ts = .ok 1 := by
  rw [evaluatePostfix, Machine.run] at evaluated
  split at evaluated
  · exact Machine.depthAfter_of_foldlM ‹_›
  all_goals cases evaluated

end SciCalc
