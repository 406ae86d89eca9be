/-
# SciCalc.Number.ExactSum -- sums of doubles rounded once

The sum so far is kept as a list of doubles, smallest magnitude first, whose exact
sum is the exact sum of all summands: no two of them overlap.  A summand is carried
through the parts by exact two-term additions (`absorb`), each of which splits a
sum into its rounded value and the exact rest.

Rounding happens in `total` alone.  Adding from the largest part down, the first
inexact addition decides the result, except that a rest of exactly half a unit is
settled by the sign of the part below it.
-/
import SciCalc.Number.Binary

namespace SciCalc.Number.ExactSum

set_option autoImplicit false

/-- A sum of two doubles as its rounded value and the exact rest. -/
def twoTerm (x y : Float) : Float × Float :=
  let larger := if x.abs < y.abs then y else x
  let smaller := if x.abs < y.abs then x else y
  let high := larger + smaller
  (high, smaller - (high - larger))

/-- Carry a summand through the parts: the rests that are not zero, and the
rounded sum above them all. -/
def absorb : List Float → Float → List Float × Float
  | [], x => ([], x)
  | part :: parts, x =>
      let (high, low) := twoTerm x part
      let (rests, top) := absorb parts high
      (if low == 0.0 then rests else low :: rests, top)

/-- One more summand; none when the rounded sum of the parts leaves the doubles. -/
def accumulate (parts : List Float) (x : Float) : Option (List Float) :=
  let (rests, top) := absorb parts x
  if top == 0.0 then some rests
  else if top.isFinite then some (rests ++ [top])
  else none

/-- Add the parts, largest first, below a rounded sum `high`. -/
def settle (high : Float) : List Float → Float
  | [] => high
  | part :: parts =>
      let sum := high + part
      let low := part - (sum - high)
      if low == 0.0 then settle sum parts
      else
        match parts with
        | [] => sum
        | next :: _ =>
            let sameSide := (low < 0.0 && next < 0.0) || (0.0 < low && 0.0 < next)
            let nudged := sum + low * 2.0
            if sameSide && low * 2.0 == nudged - sum then nudged else sum

/-- The exact sum of the parts, rounded once; an empty sum is positive zero. -/
def total (parts : List Float) : Float :=
  match parts.reverse with
  | [] => 0.0
  | high :: rest => settle high rest

end SciCalc.Number.ExactSum
