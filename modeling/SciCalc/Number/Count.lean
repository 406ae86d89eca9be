/-
# SciCalc.Number.Count -- factorials, arrangements and selections

Counts are exact natural numbers and become doubles once, at the end; a count that
no double is near to becomes infinite.  Whether an arrangement or a selection is
beyond every double is decided beforehand from the logarithm of the gamma function
(`arrangements`, `selections`), so that no astronomically long product is formed.

That estimate is itself limited in two ways, which are the failures here: the
logarithm leaves the doubles near `2.5e305`, and where it is too coarse to tell two
arguments apart, a product of `2 ^ 63` factors or more is refused.
-/
import SciCalc.Number.LogGamma

namespace SciCalc.Number

set_option autoImplicit false

/-- Why a count cannot be given although it exists. -/
inductive CountFault
  /-- The logarithm of the gamma function is out of range. -/
  | gammaRange
  /-- An arrangement of too many items. -/
  | arrangementFactors
  /-- A selection of too many items, or of all but too many. -/
  | selectionFactors
deriving DecidableEq, Repr

namespace CountFault

def message : CountFault → String
  | gammaRange => "math range error"
  | arrangementFactors => "k must not exceed 9223372036854775807"
  | selectionFactors => "min(n - k, k) must not exceed 9223372036854775807"

end CountFault

/-- The number a double stands for, if it is finite, whole and not negative. -/
def wholeNumber? (x : Float) : Option Nat :=
  match Binary.ofFloat? x with
  | some b =>
      if b.significand = 0 then some 0
      else if b.negative then none
      else if b.num % b.den = 0 then some (b.num / b.den)
      else none
  | none => none

def ofCount (n : Nat) : Float := nearest false n 1

def fallingProduct : (n count : Nat) → Nat
  | _, 0 => 1
  | n, count + 1 => n * fallingProduct (n - 1) count

theorem fallingProduct_add (n first second : Nat) :
    fallingProduct n (first + second) =
      fallingProduct n first * fallingProduct (n - first) second := by
  induction first generalizing n with
  | zero => simp [fallingProduct]
  | succ first ih =>
      rw [Nat.add_right_comm, fallingProduct, fallingProduct, ih, Nat.mul_assoc, Nat.sub_sub,
        Nat.add_comm 1 first]

/-- The same product by so many halvings of the range, which keeps the numbers that
are multiplied of one size. -/
def productOfHalves : (halvings n count : Nat) → Nat
  | 0, n, count => fallingProduct n count
  | halvings + 1, n, count =>
      productOfHalves halvings n (count / 2) *
        productOfHalves halvings (n - count / 2) (count - count / 2)

theorem productOfHalves_eq_fallingProduct (halvings n count : Nat) :
    productOfHalves halvings n count = fallingProduct n count := by
  induction halvings generalizing n count with
  | zero => rfl
  | succ halvings ih =>
      rw [productOfHalves, ih, ih, ← fallingProduct_add]
      congr 1
      omega

/-- The product of the `count` numbers from `n` downwards, however many. -/
def rangeProduct (n count : Nat) : Nat := productOfHalves count.log2 n count

/-- Above this number every factorial is infinite. -/
def maxFactorial : Nat := 170

/-- `n!`, infinite where no double is near. -/
def factorial (n : Nat) : Float :=
  if maxFactorial < n then infinity else ofCount (rangeProduct n n)

/-- Natural logarithm of the largest finite double. -/
def maxLog : Float := 709.782712893384

/-- The products with at least this many factors are refused. -/
def factorLimit : Nat := Nat.pow 2 63

/-- `log (n!)`, as the estimates use it. -/
def logFactorial (n : Nat) : Except CountFault Float :=
  match LogGamma.logGamma? (ofCount (n + 1)) with
  | some value => .ok value
  | none => .error .gammaRange

/-- In how many ways `r` of `n` items can be put in a row. -/
def arrangements (n r : Nat) : Except CountFault Float := do
  if n < r then return 0.0
  let all ← logFactorial n
  let left ← logFactorial (n - r)
  if maxLog < all - left then return infinity
  if factorLimit ≤ r then throw .arrangementFactors
  return ofCount (rangeProduct n r)

/-- In how many ways `r` of `n` items can be chosen. -/
def selections (n r : Nat) : Except CountFault Float := do
  if n < r then return 0.0
  let all ← logFactorial n
  let chosen ← logFactorial r
  let left ← logFactorial (n - r)
  if maxLog < all - chosen - left then return infinity
  let factors := min r (n - r)
  if factorLimit ≤ factors then throw .selectionFactors
  return ofCount (rangeProduct n factors / rangeProduct factors factors)

end SciCalc.Number
