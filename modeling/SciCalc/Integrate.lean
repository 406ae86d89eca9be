/-
# SciCalc.Integrate -- integrals of expressions

The integration rules applied to an expression as a function of one of its variables.
Evaluation faults surface as faults of integrating.
-/
import SciCalc.Quadrature.Simpson
import SciCalc.Quadrature.Singular
import SciCalc.Quadrature.Trapezoid
import SciCalc.Solve

namespace SciCalc

set_option autoImplicit false

namespace Integrate

/-- Whether a search for discontinuities goes on behind a fault: behind one of
integrating, of the arithmetic underneath or of a value. -/
def passesOver (fault : Fault) : Bool :=
  fault.kind.isIntegrating || fault.kind ∈ [.range, .zeroDivisor, .value]

/-- A rule on doubles as a computation of the library. -/
def report {α : Type}
    (rule : Report (Quadrature.Event Float Fault) (Quadrature.Failure Float Fault) α) : Calc α :=
  rule.relabel Note.quadrature Quadrature.Failure.fault

/-- How many halvings of an interval can be nested when an expression is integrated. -/
def deepest : Nat := 980

end Integrate

def integrate (subject : Subject) (a b tolerance : Float) (depth : Int) : Calc Float := do
  let sampler ← subject.sampler .integrating
  Integrate.report
    (Quadrature.integrate sampler.value a b tolerance depth (some Integrate.deepest))

def simpson (subject : Subject) (a b : Float) : Calc Float := do
  let sampler ← subject.sampler .integrating
  Integrate.report (Report.ofExcept (Quadrature.simpson sampler.value a b))

/-- The integral of an expression by the trapezoidal rule.  That there are panels is
looked at before the expression is. -/
def trapezoid (subject : Subject) (a b : Float) (panels : Int) : Calc Float := do
  Integrate.report (Report.ofExcept (Quadrature.checkPanels panels))
  let sampler ← subject.sampler .integrating
  Integrate.report (Report.ofExcept (Quadrature.trapezoid sampler.value a b panels))

def romberg (subject : Subject) (a b : Float) (rows : Int) (tolerance : Float) : Calc Float := do
  let sampler ← subject.sampler .integrating
  Integrate.report (Quadrature.romberg sampler.value a b rows tolerance)

/-- The points of an even grid over a range where an expression has no finite value. -/
def discontinuities (subject : Subject) (a b : Float) (samples : Int) : Calc (List Float) := do
  let sampler ← subject.sampler .integrating
  Integrate.report
    (Quadrature.discontinuities sampler.value Integrate.passesOver a b samples)

end SciCalc
