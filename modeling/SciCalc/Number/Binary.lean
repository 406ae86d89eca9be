/-
# SciCalc.Number.Binary -- doubles as exact fractions

A finite double is `± significand * 2 ^ exponent`, with a significand below
`2 ^ 53` and an exponent from `-1074` to `971`.  This module reads that fraction
off a double (`Binary.ofFloat?`) and finds the double nearest to any fraction
(`nearest?`), a half going to the neighbour with the even significand.

The bits of the double with significand `m` and exponent `q` are, sign apart,
`(q + 1074) * 2 ^ 52 + m`: for the least exponent a significand without its
leading bit is a subnormal, and one that rounds up to `2 ^ 53` carries into the
exponent field by itself.  So rounding needs no case for either.
-/
namespace SciCalc.Number

set_option autoImplicit false

/-- The integer nearest to `num / den`; a half goes to the even one. -/
def roundDiv (num den : Nat) : Nat :=
  let quotient := num / den
  let twice := 2 * (num % den)
  if twice < den then quotient
  else if den < twice then quotient + 1
  else quotient + quotient % 2

/-- A finite double as a signed dyadic fraction. -/
structure Binary where
  negative : Bool
  significand : Nat
  exponent : Int
deriving DecidableEq, Repr

namespace Binary

/-- The least exponent of a double: that of the subnormals. -/
def minExponent : Int := -1074

/-- The fraction that a double stands for, unless it is infinite or no number. -/
def ofFloat? (x : Float) : Option Binary :=
  let bits := x.toBits.toNat
  let negative := decide (Nat.pow 2 63 ≤ bits)
  let field : Nat := bits / Nat.pow 2 52 % Nat.pow 2 11
  let fraction : Nat := bits % Nat.pow 2 52
  if field = 2047 then none
  else if field = 0 then some ⟨negative, fraction, minExponent⟩
  else some ⟨negative, Nat.pow 2 52 + fraction, (field : Int) - 1075⟩

def num (b : Binary) : Nat := b.significand * Nat.pow 2 b.exponent.toNat

/-- Denominator of the magnitude, a power of two. -/
def den (b : Binary) : Nat := Nat.pow 2 (-b.exponent).toNat

end Binary

/-- The number of bits set apart for the sign: the bits of `-0.0`. -/
def signBit : Nat := Nat.pow 2 63

/-- The bits of positive infinity; every smaller number is a finite magnitude. -/
def infinityBits : Nat := 2047 * Nat.pow 2 52

def infinity : Float := Float.ofBits (UInt64.ofNat infinityBits)

/-- Whether the sign bit is set, also of a zero. -/
def signed (x : Float) : Bool := decide (signBit ≤ x.toBits.toNat)

/-- The exponent `e` with `2 ^ e ≤ num / den < 2 ^ (e + 1)`. -/
def binaryExponent (num den : Nat) : Int :=
  let guess : Int := (num.log2 : Int) - (den.log2 : Int)
  if num * Nat.pow 2 (-guess).toNat < den * Nat.pow 2 guess.toNat then guess - 1 else guess

/-- The bits of the double nearest to the magnitude `num / den`, which are at
least `infinityBits` when it lies too far above the largest finite one. -/
def nearestBits (num den : Nat) : Nat :=
  if num = 0 then 0
  else
    let exponent := max (binaryExponent num den - 52) Binary.minExponent
    let significand := roundDiv (num * Nat.pow 2 (-exponent).toNat) (den * Nat.pow 2 exponent.toNat)
    (exponent - Binary.minExponent).toNat * Nat.pow 2 52 + significand

/-- The double nearest to `± num / den`; none when it would be infinite. -/
def nearest? (negative : Bool) (num den : Nat) : Option Float :=
  let bits := nearestBits num den
  if bits < infinityBits then
    some (Float.ofBits (UInt64.ofNat (if negative then signBit + bits else bits)))
  else none

/-- The double nearest to `± num / den`, infinite when out of range. -/
def nearest (negative : Bool) (num den : Nat) : Float :=
  (nearest? negative num den).getD (if negative then -infinity else infinity)

end SciCalc.Number
