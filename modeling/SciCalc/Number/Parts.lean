/-
# SciCalc.Number.Parts -- dividing a range evenly

A range is divided into equal parts by their width, and the points between them are
counted from its beginning: point `i` lies `i` widths behind it, computed by one
product and one sum rather than by adding widths.
-/
import SciCalc.Number.Scalar

namespace SciCalc.Number

set_option autoImplicit false

/-- Why a range cannot be divided into a number of parts. -/
inductive PartFault
  /-- There are to be none. -/
  | noParts
  /-- There are to be more than the arithmetic has numbers for. -/
  | tooMany
deriving DecidableEq, Repr

variable {α : Type} [Scalar α]

/-- The width of one of `count` equal parts of a range; negative for a negative count. -/
def partWidth (a b : α) (count : Int) : Except PartFault α :=
  let parts : α := Scalar.ofInt count
  if !Scalar.isFinite parts then .error .tooMany
  else if parts == 0.0 then .error .noParts
  else .ok ((b - a) / parts)

/-- The point `number` widths behind the beginning. -/
def gridPoint (a width : α) (number : Nat) : α := a + Scalar.ofNat number * width

end SciCalc.Number
