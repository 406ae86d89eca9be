/-
# SciCalc.Root.Search -- solving from a guess, and finding all roots of a range

`solve` runs one method.  Brent's method without bounds first looks for a sign
change on windows around the guess, ten units wider on each side every time, and
falls back to Newton's method when the tenth has none.

`findAll` divides a range evenly and runs Brent's method on every part whose ends
enclose a root.  Roots closer together than ten tolerances count as one, and roots
without a sign change are missed.

Both pass over points without a value, and `findAll` also over parts on which
Brent's method fails, as long as the cause is one to pass over (`skips`); any other
cause ends the search.
-/
import SciCalc.Report
import SciCalc.Root.Bisection
import SciCalc.Root.Brent
import SciCalc.Root.Newton

namespace SciCalc.Root

set_option autoImplicit false

open SciCalc.Number

structure Setting (α : Type) where
  method : Method
  guess : α
  bounds : Option (α × α)
  tolerance : α
  limit : Int

def defaultTolerance {α : Type} [OfScientific α] : α := 1e-8

def defaultLimit : Int := 100

/-- How much wider on each side every window is. -/
def windowStep : Nat := 10

def windowCount : Nat := 10

variable {α ε : Type} [Scalar α]

abbrev Search (α ε β : Type) := Report (Event α ε) (Failure α ε) β

/-- The root where a run of a method ended, and what it reports. -/
def conclude (method : Method) (run : Except (Failure α ε) (Ending α)) : Search α ε α :=
  match run with
  | .ok ending => do
      Report.tell (ending.events method)
      return ending.root
  | .error failure => Report.fail failure

/-- Whether the values at the ends of an interval enclose a root. -/
def enclosesOn (f : α → Except ε α) (a b : α) : Except ε Bool := do
  let fa ← f a
  let fb ← f b
  return encloses fa fb

/-- The ends of the window with a given number around a guess. -/
def window (guess : α) (number : Nat) : α × α :=
  (guess - Scalar.ofNat (number * windowStep), guess + Scalar.ofNat (number * windowStep))

/-- The first of some windows whose ends enclose a root. -/
def findWindow (f : α → Except ε α) (skips : ε → Bool) (guess : α) :
    List Nat → Search α ε (Option (α × α))
  | [] => return none
  | number :: numbers =>
      let (a, b) := window guess number
      match enclosesOn f a b with
      | .ok true => do
          Report.note (.signChange a b)
          return some (a, b)
      | .ok false => findWindow f skips guess numbers
      | .error cause =>
          if skips cause then do
            Report.note (.skippedWindow a b cause)
            findWindow f skips guess numbers
          else Report.fail (.sample cause)

def windowNumbers : List Nat := (List.range windowCount).map (· + 1)

def newtonFromGuess (f : α → Except ε α) (t : Setting α) : Search α ε α :=
  conclude .newton (newton f (centralDifference f differenceStep) t.guess t.tolerance t.limit)

/-- A root of `f` as the setting asks. -/
def solve (f : α → Except ε α) (skips : ε → Bool) (t : Setting α) : Search α ε α :=
  match t.method with
  | .bisection =>
      match t.bounds with
      | some (a, b) => conclude .bisection (bisection f a b t.tolerance t.limit)
      | none => Report.fail (.trouble .boundsRequired)
  | .newton => newtonFromGuess f t
  | .secant =>
      let second := match t.bounds with
        | some (_, b) => b
        | none => t.guess + 1.0
      conclude .secant (secant f t.guess second t.tolerance t.limit)
  | .brent =>
      match t.bounds with
      | some (a, b) => conclude .brent (brent f a b t.tolerance t.limit)
      | none => do
          match ← findWindow f skips t.guess windowNumbers with
          | some (a, b) => conclude .brent (brent f a b t.tolerance t.limit)
          | none =>
              Report.note (.noWindow t.guess (windowStep * windowCount))
              newtonFromGuess f t

/-- The value at a point; none where the function has none that matters. -/
def valueAt (f : α → Except ε α) (skips : ε → Bool) (x : α) : Search α ε (Option α) :=
  match f x with
  | .ok y => return some y
  | .error cause =>
      if skips cause then do
        Report.note (.unevaluable x cause)
        return none
      else Report.fail (.sample cause)

/-- Whether a failure on one part of a range lets the search go on. -/
def Failure.passedOver (skips : ε → Bool) : Failure α ε → Bool
  | .sample cause => skips cause
  | .trouble .zeroDivisor | .trouble (.parts _) => false
  | .trouble _ => true

/-- The root in the part from `x₀` to `x₁`, if its ends enclose one and it is found. -/
def rootBetween (f : α → Except ε α) (skips : ε → Bool) (tolerance : α) (limit : Int)
    (x₀ : α) (f₀ : Option α) (x₁ : α) (f₁ : Option α) : Search α ε (Option α) :=
  match f₀, f₁ with
  | some y₀, some y₁ =>
      if encloses y₀ y₁ then do
        match ← (conclude .brent (brent f x₀ x₁ tolerance limit)).attempt with
        | .ok root => return some root
        | .error failure =>
            if failure.passedOver skips then do
              Report.note (.skippedInterval x₀ x₁ failure)
              return none
            else Report.fail failure
      else return none
  | _, _ => return none

/-- A root joined to those found before, unless it is close to one of them. -/
def joinRoot (tolerance : α) (roots : List α) (root : α) : List α :=
  if roots.all fun other => decide (tolerance * 10.0 < Scalar.abs (root - other)) then
    roots ++ [root]
  else roots

/-- The roots found in the parts that end at the points with the given numbers, where
`x₀` is the point before and `f₀` its value. -/
def scan (f : α → Except ε α) (skips : ε → Bool) (a step tolerance : α) (limit : Int) :
    (numbers : List Nat) → (x₀ : α) → (f₀ : Option α) → (roots : List α) →
      Search α ε (List α)
  | [], _, _, roots => return roots
  | number :: numbers, x₀, f₀, roots => do
      let x₁ := gridPoint a step number
      let f₁ ← valueAt f skips x₁
      match ← rootBetween f skips tolerance limit x₀ f₀ x₁ f₁ with
      | some root =>
          scan f skips a step tolerance limit numbers x₁ f₁ (joinRoot tolerance roots root)
      | none => scan f skips a step tolerance limit numbers x₁ f₁ roots

/-- A number put in front of the first one above it in an ascending list. -/
def insertSorted (x : α) : List α → List α
  | [] => [x]
  | y :: ys => if x < y then x :: y :: ys else y :: insertSorted x ys

/-- A list in ascending order; equal numbers keep their order. -/
def sorted (xs : List α) : List α := xs.foldl (fun ys x => insertSorted x ys) []

/-- The roots that Brent's method finds on `divisions` equal parts of a range, in
ascending order. -/
def findAll (f : α → Except ε α) (skips : ε → Bool) (a b : α) (divisions : Int)
    (tolerance : α) (limit : Int) : Search α ε (List α) := do
  let step ← Report.ofExcept ((partWidth a b divisions).mapError fun cause =>
    .trouble (.parts cause))
  let first ← valueAt f skips a
  let numbers := (List.range divisions.toNat).map (· + 1)
  let roots ← scan f skips a step tolerance limit numbers a first []
  return sorted roots

end SciCalc.Root
