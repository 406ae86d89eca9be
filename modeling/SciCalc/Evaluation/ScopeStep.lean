/-
# SciCalc.Evaluation.ScopeStep -- what can be done in a scope

Bind blocks are entered and the innermost one is left, names are looked up, and expressions
are evaluated in the context as it is.  An expression runs on a machine that holds this
context and gives it back, so what a run does to it, the scope would keep; a look-up and an
evaluation can fail, and the scope goes on from there.
-/
import SciCalc.Evaluation.Machine

namespace SciCalc

set_option autoImplicit false

inductive ScopeStep
  | enter (name : String) (value : Option Float)
  /-- Leave the innermost open block. -/
  | leave
  | lookup (name : String)
  | evaluate (strict : Bool) (expression : String)

namespace Scope

/-- The scope with the context of the machine on which an expression has been run; one that
cannot be parsed is not run. -/
def run (s : Scope) (strict : Bool) (expression : String) : Scope :=
  match (Syntax.parse strict expression).outcome with
  | .ok tokens => ⟨((Machine.new s.context).run tokens).2.context, s.blocks⟩
  | .error _ => s

/-- Take a step: its value, if it has one, and the scope afterwards. -/
def perform (s : Scope) : ScopeStep → Calc (Option Float) × Scope
  | .enter name value => (pure none, s.enter name value)
  | .leave => (pure none, s.leave)
  | .lookup name => (Report.ofExcept ((s.context.lookup name).map some), s)
  | .evaluate strict expression =>
      (do
        let value ← SciCalc.evaluate s.context strict expression
        return some value,
      s.run strict expression)

def performAll (s : Scope) (steps : List ScopeStep) : Scope :=
  steps.foldl (fun s step => (s.perform step).2) s

end Scope

end SciCalc
