/-
# SciCalc.Number.Notation -- how numbers are written

Numbers appear in two notations.

* `shortest`: the fewest digits that read back, always with a point or an
  exponent; positional from `0.0001` to below `10 ^ 16`.
* `general`: six significant digits, trailing zeros and a bare point dropped;
  positional from `0.0001` to below `10 ^ 6`.

Outside the positional range both write one digit before the point and an
exponent with a sign and at least two digits.  The values that are no finite
number are `inf`, `-inf` and `nan`; a zero keeps its sign.
-/
import SciCalc.Number.Decimal

namespace SciCalc.Number

set_option autoImplicit false

/-- What distinguishes one notation from the other. -/
structure Layout where
  /-- From this exponent on the scientific form is used. -/
  positionalBelow : Int
  /-- Whether a whole number is written with `.0`. -/
  pointZero : Bool
deriving DecidableEq, Repr

namespace Layout

/-- The exponents below this one are written in scientific form. -/
def positionalFrom : Int := -4

/-- An exponent with its sign and at least two digits. -/
def exponentText (e : Int) : String :=
  let digits := toString e.natAbs
  (if e < 0 then "-" else "+") ++ (if digits.length < 2 then "0" ++ digits else digits)

/-- Digits with a point among them: `leading` is the exponent of the first. -/
def positional (l : Layout) (digits : List Char) (leading : Int) : List Char :=
  if leading < 0 then
    '0' :: '.' :: (List.replicate (-leading - 1).toNat '0' ++ digits)
  else
    let whole := leading.toNat + 1
    if digits.length ≤ whole then
      digits ++ List.replicate (whole - digits.length) '0' ++
        (if l.pointZero then ['.', '0'] else [])
    else digits.take whole ++ '.' :: digits.drop whole

/-- One digit before the point, then the exponent. -/
def scientific (digits : List Char) (leading : Int) : List Char :=
  digits.take 1 ++ (if digits.length ≤ 1 then [] else '.' :: digits.drop 1) ++
    'e' :: (exponentText leading).toList

/-- The text of a magnitude; its digits must not end in a zero. -/
def magnitude (l : Layout) (d : Decimal) : List Char :=
  let digits := Nat.toDigits 10 d.digits
  if positionalFrom ≤ d.leading ∧ d.leading < l.positionalBelow then
    l.positional digits d.leading
  else scientific digits d.leading

/-- The text of a double whose finite magnitudes get their digits from `choose`. -/
def write (l : Layout) (choose : Binary → Decimal) (x : Float) : String :=
  match Binary.ofFloat? x with
  | some b => String.ofList ((if b.negative then ['-'] else []) ++ l.magnitude (choose b))
  | none => if x.isNaN then "nan" else if signed x then "-inf" else "inf"

end Layout

/-- The fewest digits that read back as the same double. -/
def shortest (x : Float) : String :=
  Layout.write ⟨16, true⟩ Binary.shortest x

def general (x : Float) : String :=
  Layout.write ⟨6, false⟩ (fun b => (b.significant 6).trim) x

end SciCalc.Number
