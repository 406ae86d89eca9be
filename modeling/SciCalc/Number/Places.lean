/-
# SciCalc.Number.Places -- rounding to decimal places

The exact value of a double is rounded to a multiple of `10 ^ -places`, a half
going to the even multiple, and the result is the double nearest to that.  The
sign is kept, so a small negative number rounds to `-0.0`.

Past 323 places every double is a multiple already, and below -308 places every
finite double rounds to zero; neither bound is searched with powers of ten.
Infinities and no-numbers stay as they are.  Rounding away from zero can leave
the doubles, which is the one way to fail.
-/
import SciCalc.Number.Binary

namespace SciCalc.Number

set_option autoImplicit false

/-- A double rounded to `places` decimal places; none when the result is too large. -/
def roundTo? (x : Float) (places : Int) : Option Float :=
  match Binary.ofFloat? x with
  | none => some x
  | some b =>
      if 323 < places then some x
      else if places < -308 then some (0.0 * x)
      else
        let up := Nat.pow 10 places.toNat
        let down := Nat.pow 10 (-places).toNat
        nearest? b.negative (roundDiv (b.num * up) (b.den * down) * down) up

end SciCalc.Number
