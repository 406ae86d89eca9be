/-
# SciCalc.Root.Failure -- methods of root finding, how they end and how they fail

A root finder either ends at a point, for a stated reason (`Ending`), or fails.  It
fails because the function could not be evaluated, and then with the function's own
cause, or by a trouble of its own (`Trouble`).  What is worth telling about a search
that goes on in spite of failures is an `Event`.
-/
import SciCalc.Number.Parts

namespace SciCalc.Root

set_option autoImplicit false

open SciCalc.Number

inductive Method
  | bisection
  | newton
  | secant
  | brent
deriving DecidableEq, Repr

namespace Method

def all : List Method := [bisection, newton, secant, brent]

def name : Method → String
  | bisection => "bisection"
  | newton => "newton"
  | secant => "secant"
  | brent => "brent"

/-- The name at the beginning of a sentence. -/
def title : Method → String
  | bisection => "Bisection"
  | newton => "Newton"
  | secant => "Secant"
  | brent => "Brent"

def ofName? (text : String) : Option Method := all.find? (·.name == text)

end Method

/-- What can go wrong in an algorithm although the function can be evaluated. -/
inductive Trouble (α : Type)
  /-- The values at the bounds do not enclose a root. -/
  | noSignChange (a fa b fb : α)
  /-- The slope at a point is too small for a Newton step. -/
  | flatDerivative (x : α)
  /-- The values at the last two iterates are too close for a secant step. -/
  | equalValues (x₀ x₁ : α)
  /-- The value at an iterate is not finite. -/
  | leftDomain (x fx : α)
  | notConverged (method : Method) (limit : Int)
  | boundsRequired
  /-- A divisor is zero. -/
  | zeroDivisor
  /-- The range cannot be divided as asked. -/
  | parts (cause : PartFault)
deriving DecidableEq, Repr

/-- Why an algorithm gave no root; `ε` is the cause for a function without a value. -/
inductive Failure (α ε : Type)
  | sample (cause : ε)
  | trouble (cause : Trouble α)
deriving DecidableEq, Repr

structure Bracket (α : Type) where
  a : α
  fa : α
  b : α
  fb : α
deriving DecidableEq, Repr

/-- Where an algorithm ended, and why there. -/
inductive Ending (α : Type)
  /-- At a bound it was given. -/
  | bound (root value : α)
  /-- At a point whose value is below the tolerance. -/
  | smallValue (root value : α) (iterations : Nat)
  /-- One step past a point, where the step is below the tolerance. -/
  | smallStep (root value slope : α) (iterations : Nat)
  /-- Inside a bracket that is narrow enough. -/
  | narrow (root : α) (bracket : Bracket α) (iterations : Nat)
  /-- In the middle of the bracket left after the last iteration allowed. -/
  | exhausted (root : α) (bracket : Bracket α) (limit : Int)
deriving DecidableEq, Repr

/-- What a search reports besides its result. -/
inductive Event (α ε : Type)
  | converged (method : Method) (iterations : Nat)
  | stopped (bracket : Bracket α) (limit : Int)
  | skippedWindow (a b : α) (cause : ε)
  | signChange (a b : α)
  | noWindow (guess : α) (reach : Nat)
  | unevaluable (x : α) (cause : ε)
  | skippedInterval (a b : α) (cause : Failure α ε)
deriving DecidableEq, Repr

namespace Ending

variable {α : Type}

def root : Ending α → α
  | bound root _ => root
  | smallValue root _ _ => root
  | smallStep root _ _ _ => root
  | narrow root _ _ => root
  | exhausted root _ _ => root

/-- What is reported about an ending.  The open methods, Newton's and the secant
method, report a small step only; a bound taken at once is not reported. -/
def events {ε : Type} (method : Method) : Ending α → List (Event α ε)
  | bound _ _ => []
  | smallValue _ _ iterations =>
      match method with
      | .newton | .secant => []
      | .bisection | .brent => [.converged method iterations]
  | smallStep _ _ _ iterations => [.converged method iterations]
  | narrow _ _ iterations => [.converged method iterations]
  | exhausted _ bracket limit => [.stopped bracket limit]

end Ending

section

variable {α ε : Type} [Scalar α]

/-- Evaluate the function, its failure becoming the algorithm's. -/
def sample (f : α → Except ε α) (x : α) : Except (Failure α ε) α :=
  match f x with
  | .ok y => .ok y
  | .error cause => .error (.sample cause)

/-- A quotient; a zero divisor is a trouble. -/
def divide (x y : α) : Except (Failure α ε) α :=
  if y == 0.0 then .error (.trouble .zeroDivisor) else .ok (x / y)

/-- Whether a root lies between two points, judged by the values there. -/
def encloses (fa fb : α) : Bool :=
  Scalar.isFinite fa && Scalar.isFinite fb &&
    (fa == 0.0 || fb == 0.0 || decide (fa < 0.0) != decide (fb < 0.0))

end

end SciCalc.Root
