/-
# SciCalc.Solve -- solving equations given as expressions

An expression is made a function of one of its variables, evaluated against a context
that is not changed, and handed to the root finders.  Evaluation faults surface as
faults of solving; points where the function has none but such faults are passed
over, where a search passes over points at all.
-/
import SciCalc.Evaluation.Sampler
import SciCalc.Root.Search

namespace SciCalc

set_option autoImplicit false

/-- An expression as a function of one variable, and what it is evaluated against. -/
structure Subject where
  expression : String
  argument : String
  context : Context
  strict : Bool

def Subject.sampler (s : Subject) (layer : Layer) : Calc Sampler :=
  Sampler.ofExpression s.context s.strict (some layer) s.argument s.expression

namespace Solve

/-- Whether a search goes on behind a fault. -/
def passesOver (fault : Fault) : Bool := fault.kind.isSolving

def report {α : Type} (search : Root.Search Float Fault α) : Calc α :=
  search.relabel Note.root Root.Failure.fault

/-- How to solve; the method is given by name. -/
structure Options where
  method : String := Root.Method.brent.name
  guess : Float := 0.0
  bounds : Option (Float × Float) := none
  tolerance : Float := Root.defaultTolerance
  limit : Int := Root.defaultLimit

def Options.setting (o : Options) (method : Root.Method) : Root.Setting Float :=
  ⟨method, o.guess, o.bounds, o.tolerance, o.limit⟩

end Solve

/-- A value of the variable at which the expression is zero. -/
def solve (subject : Subject) (options : Solve.Options) : Calc Float := do
  let method ← match Root.Method.ofName? options.method with
    | some method => pure method
    | none => Report.fail (.unknownMethod options.method)
  let sampler ← subject.sampler .solving
  Report.note (.solving subject.expression subject.argument method)
  Solve.report (Root.solve sampler.value Solve.passesOver (options.setting method))

/-- The values of the variable in a range at which the expression is zero. -/
def findRoots (subject : Subject) (a b : Float) (divisions : Int) (tolerance : Float)
    (limit : Int) : Calc (List Float) := do
  let sampler ← subject.sampler .solving
  Solve.report (Root.findAll sampler.value Solve.passesOver a b divisions tolerance limit)

end SciCalc
