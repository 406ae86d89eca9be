/-
# SciCalc.Number.Decimal -- doubles and decimal digits

Three rules connect a double with its decimal digits, and all three work on the
exact fraction behind it (`Binary`):

* reading: the double nearest to `digits * 10 ^ exponent` (`Decimal.toFloat`);
* a fixed count of significant digits: the nearest decimal of that many digits,
  a half going to the even one (`Binary.significant`);
* the fewest digits that read back: of the decimals with `1, 2, …, 17` digits the
  first count that has one inside the interval of reals rounding to this double,
  and of two such neighbours the nearer, the even one on a tie
  (`Binary.shortest`).

The interval reaches half way to the two neighbouring doubles and holds its ends
exactly when the significand is even, since a half goes to the even one.  Below a
power of two the lower neighbour is twice as close.
-/
import SciCalc.Number.Binary

namespace SciCalc.Number

set_option autoImplicit false

/-- The magnitude `digits * 10 ^ exponent`. -/
structure Decimal where
  digits : Nat
  exponent : Int
deriving DecidableEq, Repr

namespace Decimal

/-- How many decimal digits a number has; zero has one. -/
def digitCount (n : Nat) : Nat := (Nat.toDigits 10 n).length

/-- Exponent of the leading digit, as scientific form shows it. -/
def leading (d : Decimal) : Int := (digitCount d.digits : Int) - 1 + d.exponent

/-- The double nearest to a decimal.  An exponent that leads past every double is
cut off before its power of ten is formed. -/
def toFloat (negative : Bool) (d : Decimal) : Float :=
  if d.digits = 0 then nearest negative 0 1
  else if 400 < d.leading then nearest negative (Nat.pow 2 1100) 1
  else if d.leading < -400 then nearest negative 0 1
  else nearest negative (d.digits * Nat.pow 10 d.exponent.toNat) (Nat.pow 10 (-d.exponent).toNat)

/-- The same magnitude without trailing zeros among its digits. -/
def trim (d : Decimal) : Decimal :=
  let zeros := ((Nat.toDigits 10 d.digits).reverse.takeWhile (· == '0')).length
  if d.digits = 0 then ⟨0, 0⟩ else ⟨d.digits / Nat.pow 10 zeros, d.exponent + zeros⟩

end Decimal

namespace Binary

/-- Exponent of the leading decimal digit of a positive magnitude.  Every double
times `10 ^ 400` is above one, so counting digits of the whole part is enough. -/
def decimalExponent (b : Binary) : Int :=
  (Decimal.digitCount (b.num * Nat.pow 10 400 / b.den) : Int) - 401

/-- The decimal of `count` significant digits nearest to a magnitude. -/
def significant (b : Binary) (count : Nat) : Decimal :=
  if b.significand = 0 then ⟨0, 0⟩
  else
    let exponent := b.decimalExponent - (count : Int) + 1
    ⟨roundDiv (b.num * Nat.pow 10 (-exponent).toNat) (b.den * Nat.pow 10 exponent.toNat), exponent⟩

/-- Whether the decimal `digits * 10 ^ exponent` reads back as this double. -/
def readsBack (b : Binary) (digits : Nat) (exponent : Int) : Bool :=
  let below := if b.significand = Nat.pow 2 52 ∧ minExponent < b.exponent then 1 else 2
  let scale := Nat.pow 2 b.exponent.toNat * Nat.pow 10 (-exponent).toNat
  let candidate := 4 * digits * Nat.pow 10 exponent.toNat * b.den
  let low := (4 * b.significand - below) * scale
  let high := (4 * b.significand + 2) * scale
  if b.significand % 2 = 0 then decide (low ≤ candidate ∧ candidate ≤ high)
  else decide (low < candidate ∧ candidate < high)

/-- The decimal of `count` digits that reads back, nearest first; none if no
decimal of that many digits does. -/
def shortestOf? (b : Binary) (count : Nat) : Option Decimal :=
  let exponent := b.decimalExponent - (count : Int) + 1
  let top := b.num * Nat.pow 10 (-exponent).toNat
  let bottom := b.den * Nat.pow 10 exponent.toNat
  let near := roundDiv top bottom
  let far := if near = top / bottom then near + 1 else top / bottom
  if b.readsBack near exponent then some ⟨near, exponent⟩
  else if b.readsBack far exponent then some ⟨far, exponent⟩
  else none

/-- The shortest decimal that reads back, without trailing zeros. -/
def shortest (b : Binary) : Decimal :=
  if b.significand = 0 then ⟨0, 0⟩
  else
    let found := ((List.range 17).map (· + 1)).findSome? b.shortestOf?
    (found.getD (b.significant 17)).trim

end Binary

end SciCalc.Number
