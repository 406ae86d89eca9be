/-
# SciCalc.Quadrature.Trapezoid -- the trapezoidal rule and its extrapolation

The trapezoidal rule on `n` equal panels takes the inner points first and adds their
values exactly.  Romberg's method doubles the number of panels from row to row, so
that a row's first entry needs only the new points, which lie in the middle of the
panels before; every further entry of a row removes one more error term.

Romberg's method ends when the last entries of two rows after the second agree, or
after the number of rows allowed.
-/
import SciCalc.Quadrature.Failure
import SciCalc.Report

namespace SciCalc.Quadrature

set_option autoImplicit false

open SciCalc.Number

def defaultPanels : Int := 100

def defaultRows : Int := 10

def rombergTolerance {α : Type} [OfScientific α] : α := 1e-10

variable {α ε : Type} [Scalar α]

/-- At least one panel is needed. -/
def checkPanels (count : Int) : Except (Failure α ε) Unit :=
  if count < 1 then .error (.trouble (.noPanels count)) else .ok ()

def trapezoid (f : α → Except ε α) (a b : α) (panels : Int) : Except (Failure α ε) α := do
  checkPanels panels
  let h ← widthOf a b panels
  let numbers := (List.range (panels.toNat - 1)).map (· + 1)
  let inner ← sumOver f (numbers.map (gridPoint a h))
  let fa ← sample f a
  let fb ← sample f b
  return h * ((fa + fb) / 2.0 + inner)

/-- The rest of a row, given its last entry so far, the number of the next entry and
the entries of the row before from there on. -/
def extrapolate : (number : Nat) → (last : α) → (previous : List α) → List α
  | _, _, [] => []
  | number, last, entry :: previous =>
      let next :=
        (Scalar.ofNat (Nat.pow 4 number) * last - entry) / Scalar.ofNat (Nat.pow 4 number - 1)
      next :: extrapolate (number + 1) next previous

def firstRow (f : α → Except ε α) (a b : α) : Except (Failure α ε) (List α) := do
  let fa ← sample f a
  let fb ← sample f b
  return [(b - a) * (fa + fb) / 2.0]

/-- The middles of `2 ^ (number - 1)` equal panels. -/
def midpoints (a h : α) (number : Nat) : List α :=
  ((List.range (Nat.pow 2 (number - 1))).map (2 * · + 1)).map (gridPoint a h)

def nextRow (f : α → Except ε α) (a b : α) (number : Nat) (previous : List α) :
    Except (Failure α ε) (List α) := do
  let h := (b - a) / Scalar.ofNat (Nat.pow 2 number)
  let sum ← sumOver f (midpoints a h number)
  let first := previous.headD 0.0 / 2.0 + h * sum
  return first :: extrapolate 1 first previous

def lastEntry (row : List α) : α := row.getLastD 0.0

/-- The rows with the given numbers, after the row before them, and the result. -/
def rombergRows (f : α → Except ε α) (a b tolerance : α) :
    (numbers : List Nat) → (previous : List α) → Report (Event α ε) (Failure α ε) α
  | [], previous => return lastEntry previous
  | number :: numbers, previous => do
      let row ← Report.ofExcept (nextRow f a b number previous)
      if 1 < number ∧ Scalar.abs (lastEntry row - lastEntry previous) < tolerance then
        Report.note (.converged (number + 1))
        return lastEntry row
      rombergRows f a b tolerance numbers row

/-- The integral from `a` to `b` by Romberg's method with at most `rows` rows. -/
def romberg (f : α → Except ε α) (a b : α) (rows : Int) (tolerance : α) :
    Report (Event α ε) (Failure α ε) α := do
  let first ← Report.ofExcept (firstRow f a b)
  rombergRows f a b tolerance ((List.range (rows.toNat - 1)).map (· + 1)) first

end SciCalc.Quadrature
