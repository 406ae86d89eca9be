/-
# SciCalc.Proofs.Evaluation.OpenBinds -- nested blocks undo exactly

A block that is left takes back what entering it did, and the scope is the one before it
(`leave_enter`).  Blocks are left from the inside, so a scope is at any time what entering
the blocks that are still open makes of the context at the start, whatever was entered and
left in between (`performAll_eq_enterAll`).

The binds still open are known from the steps alone (`openBinds`), with no saved value in
sight.  Applied in order they give the bindings, with their order and with names that are
bound to no value (`performAll_openBinds`); where none is open, those are the bindings at the
start.
-/
import Mathlib.Data.List.Induction
import SciCalc.Evaluation.ScopeStep
import SciCalc.Proofs.Evaluation.Sampling

namespace SciCalc

set_option autoImplicit false

/-! ## Binds that are open -/

/-- The open binds after a step, outermost first. -/
def ScopeStep.openAfter (binds : List (String × Option Float)) :
    ScopeStep → List (String × Option Float)
  | enter name value => binds ++ [(name, value)]
  | leave => binds.dropLast
  | lookup _ | evaluate .. => binds

/-- The binds that steps have entered and not left. -/
def openBinds (steps : List ScopeStep) : List (String × Option Float) :=
  steps.foldl ScopeStep.openAfter []

theorem openBinds_concat (steps : List ScopeStep) (step : ScopeStep) :
    openBinds (steps ++ [step]) = step.openAfter (openBinds steps) := by
  rw [openBinds, openBinds, List.foldl_append]
  rfl

/-- Bind names one after the other. -/
def Bindings.setAll (b : Bindings) (binds : List (String × Option Float)) : Bindings :=
  binds.foldl (fun b bind => b.set (bindingName bind.1) bind.2) b

theorem Bindings.setAll_concat (b : Bindings) (binds : List (String × Option Float))
    (bind : String × Option Float) :
    b.setAll (binds ++ [bind]) = (b.setAll binds).set (bindingName bind.1) bind.2 := by
  rw [setAll, List.foldl_append]
  rfl

/-! ## Scopes -/

namespace Scope

/-- Enter blocks one inside the other. -/
def enterAll (c : Context) (binds : List (String × Option Float)) : Scope :=
  binds.foldl (fun s bind => s.enter bind.1 bind.2) (ofContext c)

theorem enterAll_concat (c : Context) (binds : List (String × Option Float))
    (bind : String × Option Float) :
    enterAll c (binds ++ [bind]) = (enterAll c binds).enter bind.1 bind.2 := by
  rw [enterAll, List.foldl_append]
  rfl

/-- **Leaving a block undoes entering it.** -/
theorem leave_enter (s : Scope) (name : String) (value : Option Float) :
    (s.enter name value).leave = s := by
  simp only [enter, leave, Context.unbind_bind]

/-- A run leaves the scope as it is. -/
theorem run_eq (s : Scope) (strict : Bool) (expression : String) : s.run strict expression = s := by
  rw [run]
  split
  · rw [Machine.context_run]
    rfl
  · rfl

theorem perform_enterAll (c : Context) (binds : List (String × Option Float)) (step : ScopeStep) :
    ((enterAll c binds).perform step).2 = enterAll c (step.openAfter binds) := by
  cases step with
  | enter name value => exact (enterAll_concat c binds (name, value)).symm
  | lookup name => rfl
  | evaluate strict expression => exact run_eq _ strict expression
  | leave =>
      rcases List.eq_nil_or_concat binds with rfl | ⟨outer, innermost, rfl⟩
      · rfl
      · rw [List.concat_eq_append, enterAll_concat, ScopeStep.openAfter, List.dropLast_concat]
        exact leave_enter _ _ _

/-- Whatever was entered and left, the scope is that of the binds still open. -/
theorem performAll_eq_enterAll (c : Context) (steps : List ScopeStep) :
    (ofContext c).performAll steps = enterAll c (openBinds steps) := by
  induction steps using List.reverseRecOn with
  | nil => rfl
  | append_singleton steps step ih =>
      rw [openBinds_concat, ← perform_enterAll, ← ih, performAll, List.foldl_append]
      rfl

theorem context_enterAll (c : Context) (binds : List (String × Option Float)) :
    (enterAll c binds).context.unit = c.unit ∧
      (enterAll c binds).context.bindings = c.bindings.setAll binds ∧
      (enterAll c binds).blocks.length = binds.length := by
  induction binds using List.reverseRecOn with
  | nil => exact ⟨rfl, rfl, rfl⟩
  | append_singleton binds bind ih =>
      obtain ⟨unit, bindings, depth⟩ := ih
      rw [enterAll_concat]
      refine ⟨unit, ?_, ?_⟩
      · rw [Bindings.setAll_concat, ← bindings]
        rfl
      · rw [List.length_append, ← depth]
        rfl

/-- **Nested blocks undo exactly.**  After any steps in a scope, whether look-ups and evaluations
succeeded or failed, the bindings are those at the start with the binds still open applied in
order: the same names with the same values, or with none, in the same places.  There are as
many open blocks as such binds, and where there is none the whole scope is what it was. -/
theorem performAll_openBinds (c : Context) (steps : List ScopeStep) :
    let s := (ofContext c).performAll steps
    s.context.bindings.entries = (c.bindings.setAll (openBinds steps)).entries ∧
      s.context.unit = c.unit ∧
      s.blocks.length = (openBinds steps).length ∧
      (openBinds steps = [] →
        s = ofContext c ∧ s.context.bindings.entries = c.bindings.entries) := by
  intro s
  have scope : s = enterAll c (openBinds steps) := performAll_eq_enterAll c steps
  obtain ⟨unit, bindings, depth⟩ := context_enterAll c (openBinds steps)
  rw [scope]
  refine ⟨congrArg Bindings.entries bindings, unit, depth, fun left => ?_⟩
  rw [left]
  exact ⟨rfl, rfl⟩

/-- Two blocks on one name under two spellings and one on a new name, with an evaluation that
fails inside: `X` has no value and `Y` is last while they are open, and afterwards `X` has its
value and `Y` is gone. -/
theorem performAll_openBinds_nested :
    let c := Context.new .degrees (Bindings.ofList [("X", some 1.0), ("M", none)])
    let inside : List ScopeStep := [.enter "x" (some 5.0), .enter "y" (some 2.0), .leave,
      .enter "Y" (some 3.0), .enter "X" none, .lookup "x", .evaluate true "1/0"]
    let outside := inside ++ [.leave, .leave, .leave]
    openBinds inside = [("x", some 5.0), ("Y", some 3.0), ("X", none)] ∧
      ((ofContext c).performAll inside).context.bindings.entries =
        [("X", none), ("M", none), ("Y", some 3.0)] ∧
      openBinds outside = [] ∧
      ((ofContext c).performAll outside).context.bindings.entries =
        [("X", some 1.0), ("M", none)] := by
  intro c inside outside
  have opened : (c.bindings.setAll (openBinds inside)).entries =
      [("X", none), ("M", none), ("Y", some 3.0)] := by
    decide +kernel
  have initially : c.bindings.entries = [("X", some 1.0), ("M", none)] := by
    decide +kernel
  have closed : openBinds outside = [] := rfl
  exact ⟨rfl, (performAll_openBinds c inside).1.trans opened, closed,
    ((performAll_openBinds c outside).2.2.2 closed).2.trans initially⟩

end Scope

end SciCalc
