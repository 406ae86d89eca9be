/-
# SciCalc.Proofs.Evaluation.Sampling -- a sampler has no memory

Whatever points a sampler was called at before, and whether or not it had values there,
the next call has the outcome of its tokens on a fresh machine, in the context the
sampler was made in with the variable bound to the point (`callAll_eq_fresh`).

A call changes the stack of the sampler's machine and nothing else (`call_eq`): the
context comes back because undoing the bind restores it, and the stack does not matter
because a run never looks at the one it is started with.
-/
import SciCalc.Evaluation.Sampler
import SciCalc.Proofs.Evaluation.Bindings
import SciCalc.Proofs.Outcome

namespace SciCalc

set_option autoImplicit false

open SciCalc.Syntax (Token)

/-! ## Runs -/

namespace Machine

theorem context_run (m : Machine) (ts : List Token) : (m.run ts).2.context = m.context := by
  rw [run]
  split <;> rfl

/-- The outcome of a run is that on a fresh machine. -/
theorem outcome_run (m : Machine) (ts : List Token) :
    (m.run ts).1 = evaluatePostfix m.context ts := by
  have same : (new m.context).context = m.context := rfl
  rw [evaluatePostfix, run, run, same]

end Machine

/-! ## Calls -/

namespace Sampler

/-- What tokens give at a point of a variable on a fresh machine, a fault as a task
reports it. -/
def fresh (context : Context) (layer : Option Layer) (argument : String) (ts : List Token)
    (x : Float) : Except Fault Float :=
  (evaluatePostfix (context.bind argument (some x)).1 ts).mapError
    (report layer (.evaluating (bindingName argument) x))

/-- The same sampler with something else on its machine's stack. -/
def withStack (s : Sampler) (stack : List Float) : Sampler :=
  { s with machine := { s.machine with stack := stack } }

/-- A call has a fresh outcome and changes nothing but the stack. -/
theorem call_eq (s : Sampler) (x : Float) :
    ∃ stack, s.call x =
      (fresh s.machine.context s.layer s.argument s.tokens x, s.withStack stack) := by
  let bound : Machine :=
    { s.machine with context := (s.machine.context.bind s.argument (some x)).1 }
  refine ⟨(bound.run s.tokens).2.stack, Prod.ext ?_ ?_⟩
  · exact congrArg (Except.mapError _) (bound.outcome_run s.tokens)
  · have restored : (bound.run s.tokens).2.context.unbind
        (s.machine.context.bind s.argument (some x)).2 = s.machine.context := by
      rw [bound.context_run]
      exact s.machine.context.unbind_bind s.argument (some x)
    exact congrArg (fun context : Context =>
      { s with machine := ⟨context, (bound.run s.tokens).2.stack⟩ }) restored

/-- So do several calls. -/
theorem callAll_eq (s : Sampler) (xs : List Float) :
    ∃ stack, s.callAll xs =
      (xs.map (fresh s.machine.context s.layer s.argument s.tokens), s.withStack stack) := by
  induction xs generalizing s with
  | nil => exact ⟨s.machine.stack, rfl⟩
  | cons x xs ih =>
      obtain ⟨between, first⟩ := s.call_eq x
      obtain ⟨stack, rest⟩ := ih (s.withStack between)
      refine ⟨stack, ?_⟩
      simp only [callAll, first, rest]
      rfl

/-- An expression that can be parsed is made a sampler that evaluates it in the context
given. -/
theorem ofExpression_of_parse {context : Context} {strict : Bool} {layer : Option Layer}
    {argument expression : String} {ts : List Token}
    (parses : (Syntax.parse strict expression).outcome = .ok ts) :
    (ofExpression context strict layer argument expression).outcome =
      .ok ⟨expression, ts, argument, layer, Machine.new context⟩ := by
  have relabelled : ((Syntax.parse strict expression).relabel (id : Note → Note)
      (report layer (.parsing expression))).outcome = .ok ts := by
    rw [Report.relabel, parses]
    rfl
  rw [ofExpression, Report.outcome_bind_ok _ _ _ relabelled, context.copy_eq]
  rfl

/-- **A sampler has no memory.**  An expression that can be parsed makes a sampler.  After
any calls, failed ones among them, its context is the one it was made in, and the next
call has the outcome of the expression on a fresh machine in that context with the
variable alone bound to the point.  Its failure is reported under a heading; where the name
of the variable has braces, that report can itself fail (`Fault.template`). -/
theorem callAll_eq_fresh {strict : Bool} {expression : String} {ts : List Token}
    (parses : (Syntax.parse strict expression).outcome = .ok ts) (context : Context)
    (layer : Option Layer) (argument : String) :
    ∃ s : Sampler, (ofExpression context strict layer argument expression).outcome = .ok s ∧
      (∀ earlier x,
        ((s.callAll earlier).2.call x).1 =
            (((Machine.new (context.bind argument (some x)).1).run ts).1).mapError
              (report layer (.evaluating (bindingName argument) x)) ∧
          ((s.callAll earlier).2.call x).2.machine.context = context) ∧
      (∀ xs, (s.callAll xs).1 = xs.map (fresh context layer argument ts) ∧
        (s.callAll xs).2.machine.context = context) ∧
      ∀ x, context.Binds argument x (context.bind argument (some x)).1 := by
  refine ⟨_, ofExpression_of_parse parses, fun earlier x => ?_, fun xs => ?_,
    context.binds_bind argument⟩
  · obtain ⟨stack, before⟩ :=
      callAll_eq ⟨expression, ts, argument, layer, Machine.new context⟩ earlier
    rw [before]
    obtain ⟨after, now⟩ := call_eq
      (withStack ⟨expression, ts, argument, layer, Machine.new context⟩ stack) x
    rw [now]
    exact ⟨rfl, rfl⟩
  · obtain ⟨stack, whole⟩ := callAll_eq ⟨expression, ts, argument, layer, Machine.new context⟩ xs
    rw [whole]
    exact ⟨rfl, rfl⟩

/-- `A+ln(x)` fails at `-1` with the value of `A` left on the stack; the call after that at
`1` is fresh, and `X` is bound to no value again. -/
theorem callAll_eq_fresh_after_failure :
    let context := Context.new .degrees (Bindings.ofList [("A", some 2.0), ("X", none)])
    let ts : List Token := [.var "A", .var "X", .function "ln", .operator "+" false]
    (Syntax.parse true "A+ln(x)").outcome = .ok ts ∧
      ∃ s, (ofExpression context true (some .solving) "x" "A+ln(x)").outcome = .ok s ∧
        (s.callAll [-1.0]).1 =
          [.error (.wrapped .solving "Cannot evaluate at X=-1.0" (.outsideDomain "ln" [-1.0]))] ∧
        (s.callAll [-1.0]).2.machine.stack = [2.0] ∧
        ((s.callAll [-1.0]).2.call 1.0).1 = fresh context (some .solving) "x" ts 1.0 ∧
        ((s.callAll [-1.0]).2.call 1.0).2.machine.context = context := by
  intro context ts
  have parses : (Syntax.parse true "A+ln(x)").outcome = .ok ts := rfl
  obtain ⟨s, made, calls, -⟩ := callAll_eq_fresh parses context (some .solving) "x"
  cases made.symm.trans (ofExpression_of_parse parses)
  exact ⟨parses, _, made, by decide +kernel, by decide +kernel, calls [-1.0] 1.0⟩

end Sampler

end SciCalc
