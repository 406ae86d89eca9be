/-
# SciCalc.Evaluation.Angle -- degrees, radians and gradians

A right angle is 90 degrees, 100 gradians or π/2 radians.  Trigonometric functions work
in radians, so their argument is converted to radians and the result of their
inverses from radians.  The factors are quotients of doubles, rounded once.
-/
import SciCalc.Number.Elementary

namespace SciCalc

set_option autoImplicit false

/-- The unit in which angles are given. -/
inductive AngleUnit
  | degrees
  | radians
  | gradians
deriving DecidableEq, Repr

namespace AngleUnit

def all : List AngleUnit := [degrees, radians, gradians]

def name : AngleUnit → String
  | degrees => "DEG"
  | radians => "RAD"
  | gradians => "GRAD"

def ofName? (text : String) : Option AngleUnit := all.find? (·.name == text)

def toRadians (u : AngleUnit) (x : Float) : Float :=
  match u with
  | degrees => x * (Number.pi / 180.0)
  | radians => x
  | gradians => x * (Number.pi / 200.0)

def fromRadians (u : AngleUnit) (x : Float) : Float :=
  match u with
  | degrees => x * (180.0 / Number.pi)
  | radians => x
  | gradians => x * (200.0 / Number.pi)

end AngleUnit

end SciCalc
