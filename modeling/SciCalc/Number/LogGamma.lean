/-
# SciCalc.Number.LogGamma -- the logarithm of the gamma function

For an argument of at least one, by Lanczos' approximation with thirteen terms:
with `g` the constant of the approximation,

  `log Γ(x) = log (N x / D x) - g + (x - 1/2) * (log (x + g - 1/2) - 1)`,

where `N` and `D` are polynomials of degree twelve.  Below five the quotient is
evaluated in `x`, above in `1 / x`, so that no power overflows.  At one and two the
value is exactly zero.
-/
import SciCalc.Number.Binary

namespace SciCalc.Number.LogGamma

set_option autoImplicit false

/-- Coefficients of the numerator, constant term first. -/
def numerator : List Float :=
  [23531376880.410759688572007674451636754734846804940,
   42919803642.649098768957899047001988850926355848959,
   35711959237.355668049440185451547166705960488635843,
   17921034426.037209699919755754458931112671403265390,
   6039542586.3520280050642916443072979210699388420708,
   1439720407.3117216736632230727949123939715485786772,
   248874557.86205415651146038641322942321632125127801,
   31426415.585400194380614231628318205362874684987640,
   2876370.6289353724412254090516208496135991145378768,
   186056.26539522349504029498971604569928220784236328,
   8071.6720023658162106380029022722506138218516325024,
   210.82427775157934587250973392071336271166969580291,
   2.5066282746310002701649081771338373386264310793408]

/-- Coefficients of the denominator `x (x + 1) … (x + 11)`, constant term first. -/
def denominator : List Float :=
  [0.0, 39916800.0, 120543840.0, 150917976.0, 105258076.0, 45995730.0, 13339535.0,
   2637558.0, 357423.0, 32670.0, 1925.0, 66.0, 1.0]

/-- The constant `g` of the approximation. -/
def shift : Float := 6.024680040776729583740234375

/-- A polynomial in `x`, highest coefficient first. -/
def ascending (x : Float) (coefficients : List Float) : Float :=
  coefficients.reverse.foldl (fun sum c => sum * x + c) 0.0

/-- The same polynomial in `1 / x`, up to the power of `x` in front. -/
def descending (x : Float) (coefficients : List Float) : Float :=
  coefficients.foldl (fun sum c => sum / x + c) 0.0

def quotient (x : Float) : Float :=
  if x < 5.0 then ascending x numerator / ascending x denominator
  else descending x numerator / descending x denominator

/-- `log Γ(x)` for `1 ≤ x`; none when it is too large for a double. -/
def logGamma? (x : Float) : Option Float :=
  if x == 1.0 || x == 2.0 then some 0.0
  else
    let scale := (quotient x).log - shift
    let value := scale + (x - 0.5) * ((x + shift - 0.5).log - 1.0)
    if value.isInf then none else some value

end SciCalc.Number.LogGamma
