/-
# SciCalc.Evaluation.Sampler -- an expression as a function of one variable

The expression is parsed once.  Each call binds the variable, runs the tokens on a
machine of the sampler's own, with a copy of the context it was made in, and undoes the
binding, whether or not the run succeeded.  So a call leaves the private context as it
was; what a failed run leaves on the stack does not matter, because the next run starts
with an empty one.

A sampler made for a numerical task reports evaluation faults as faults of that task.
-/
import SciCalc.Evaluation.Machine

namespace SciCalc

set_option autoImplicit false

open SciCalc.Syntax (Token)

/-- A parsed expression, the variable it is a function of, and a private machine. -/
structure Sampler where
  expression : String
  tokens : List Token
  argument : String
  /-- The task that reports evaluation faults, if there is one. -/
  layer : Option Layer
  machine : Machine

namespace Sampler

/-- A fault as the task of a sampler reports it. -/
def report (layer : Option Layer) (occasion : Occasion) (fault : Fault) : Fault :=
  match layer with
  | some layer => fault.wrapIn layer occasion
  | none => fault

/-- Make an expression a function of one of its variables. -/
def ofExpression (context : Context) (strict : Bool) (layer : Option Layer)
    (argument expression : String) : Calc Sampler := do
  let tokens ← (Syntax.parse strict expression).relabel id
    (report layer (.parsing expression))
  return ⟨expression, tokens, argument, layer, Machine.new context.copy⟩

def name (s : Sampler) : String := "f(" ++ s.argument ++ ")"

/-- Evaluate at a point; the sampler afterwards is the one for the next call. -/
def call (s : Sampler) (x : Float) : Except Fault Float × Sampler :=
  let (context, block) := s.machine.context.bind s.argument (some x)
  let (outcome, machine) := { s.machine with context := context }.run s.tokens
  (outcome.mapError (report s.layer (.evaluating (bindingName s.argument) x)),
    { s with machine := { machine with context := machine.context.unbind block } })

def callAll (s : Sampler) : List Float → List (Except Fault Float) × Sampler
  | [] => ([], s)
  | x :: xs =>
      let (outcome, after) := s.call x
      let (outcomes, last) := after.callAll xs
      (outcome :: outcomes, last)

def value (s : Sampler) (x : Float) : Except Fault Float := (s.call x).1

end Sampler

end SciCalc
