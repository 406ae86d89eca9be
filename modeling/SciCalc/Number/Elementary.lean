/-
# SciCalc.Number.Elementary -- functions of one double, with their domains

The functions of the mathematical library are total on doubles: outside the domain
they give no number, at a pole an infinity.  `inDomain?` turns both back into a
failure: a result that is no number from an argument that is one, and an infinite
result from a finite argument, mean that the function has no value there.

Two functions may overflow instead, `sinh` and `cosh`; they are used unguarded, so
that the infinity they give stands for a value out of range.  Powers tell the two
apart by themselves (`power?`): only a zero base has a pole.
-/
import SciCalc.Number.Binary

namespace SciCalc.Number

set_option autoImplicit false

def pi : Float := 3.141592653589793

def euler : Float := 2.718281828459045

/-- The value of `f` at `x`; none outside the domain and at a pole. -/
def inDomain? (f : Float → Float) (x : Float) : Option Float :=
  let y := f x
  if y.isNaN && !x.isNaN then none
  else if y.isInf && x.isFinite then none
  else some y

/-- `base` to the power `exponent`.  Without a value are a negative base with a
broken exponent and zero with a negative one; a result out of range is infinite. -/
def power? (base exponent : Float) : Option Float :=
  let y := base.pow exponent
  if base.isFinite && exponent.isFinite then
    if y.isNaN then none
    else if y.isInf && base == 0.0 then none
    else some y
  else some y

/-- What is left of `|x|` after the largest whole multiple of `|y|` is taken away. -/
def remainderMagnitude (x y : Binary) : Float :=
  let exponent := min x.exponent y.exponent
  let scaled (b : Binary) := b.significand * Nat.pow 2 (b.exponent - exponent).toNat
  nearest false (scaled x % scaled y * Nat.pow 2 exponent.toNat) (Nat.pow 2 (-exponent).toNat)

/-- The remainder of a division cut off toward zero, exact and with the sign of the
dividend; `y` is not zero.  An infinite dividend has none. -/
def remainder? (x y : Float) : Option Float :=
  match Binary.ofFloat? x, Binary.ofFloat? y with
  | some a, some b =>
      let size := remainderMagnitude a b
      some (if a.negative then -size else size)
  | some _, none => some (if y.isNaN then y else x)
  | none, _ => if x.isNaN || y.isNaN then some (x + y) else none

/-- The real cube root, which has the sign of its radicand. -/
def cubeRoot (x : Float) : Float :=
  let size := x.abs.pow (1.0 / 3.0)
  if signed x then -size else size

def fourthRoot (x : Float) : Float :=
  if x < 0.0 then 0.0 / 0.0 else x.pow (1.0 / 4.0)

end SciCalc.Number
