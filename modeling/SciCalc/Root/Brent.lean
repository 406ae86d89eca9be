/-
# SciCalc.Root.Brent -- interpolation inside a shrinking bracket

Three points take part: `b` is the best estimate, `c` the point on the other side of
the root, `a` the estimate before `b`.  An iteration

1. replaces `c` by `a` when `b` and `c` have come to lie on one side (`rebracket`);
2. exchanges the points so that `b` is the better of `b` and `c` (`orient`);
3. ends if the bracket from `b` to `c` is narrow or the value at `b` small;
4. moves `b` by an interpolated step or to the middle of the bracket (`stride`).

The interpolated step is taken only if it lands well inside the bracket and is less
than half of the step before last; otherwise the bracket is halved.  A step shorter
than the resolution is lengthened to it, toward the middle.
-/
import SciCalc.Root.Failure

namespace SciCalc.Root

set_option autoImplicit false

open SciCalc.Number

/-- The points of an iteration, their values, and the last two steps. -/
structure Brent (α : Type) where
  a : α
  fa : α
  b : α
  fb : α
  c : α
  fc : α
  /-- The last step. -/
  d : α
  /-- The step before it. -/
  e : α
deriving DecidableEq, Repr

namespace Brent

variable {α ε : Type} [Scalar α]

/-- The state in which the first iteration begins. -/
def start (a fa b fb : α) : Brent α := ⟨a, fa, b, fb, a, fa, b - a, b - a⟩

/-- Whether the values at `b` and `c` have one sign. -/
def oneSided (s : Brent α) : Bool :=
  decide (0.0 < s.fb ∧ 0.0 < s.fc) || decide (s.fb < 0.0 ∧ s.fc < 0.0)

/-- Make `b` and `c` enclose the root again. -/
def rebracket (s : Brent α) : Brent α :=
  if s.oneSided then { s with c := s.a, fc := s.fa, d := s.b - s.a, e := s.b - s.a } else s

/-- Make `b` the better end of the bracket. -/
def orient (s : Brent α) : Brent α :=
  if Scalar.abs s.fc < Scalar.abs s.fb then
    { s with a := s.b, fa := s.fb, b := s.c, fb := s.fc, c := s.b, fc := s.fb }
  else s

/-- The state that the tests of an iteration see. -/
def prepare (s : Brent α) : Brent α := s.rebracket.orient

/-- The distance between one and the next larger double. -/
def unitRoundoff : α := 2.220446049250313080847263336181640625e-16

def resolution (s : Brent α) (tolerance : α) : α :=
  2.0 * unitRoundoff * Scalar.abs s.b + tolerance / 2.0

def half (s : Brent α) : α := (s.c - s.b) / 2.0

/-- The interpolated step from `b` as a fraction `p / q`, before signs are settled. -/
def interpolate (s : Brent α) : Except (Failure α ε) (α × α) := do
  let t ← divide s.fb s.fa
  if s.a == s.c then
    return (2.0 * s.half * t, 1.0 - t)
  else
    let q ← divide s.fa s.fc
    let r ← divide s.fb s.fc
    return (t * (2.0 * s.half * q * (q - r) - (s.b - s.a) * (r - 1.0)),
      (q - 1.0) * (r - 1.0) * (t - 1.0))

/-- The same fraction with a numerator that is not negative, its sign moved below. -/
def settleSign (p q : α) : α × α := if 0.0 < p then (p, -q) else (-p, q)

def lesser (x y : α) : α := if y < x then y else x

/-- The next two steps `d` and `e`. -/
def stride (s : Brent α) (resolution : α) : Except (Failure α ε) (α × α) := do
  if resolution ≤ Scalar.abs s.e ∧ Scalar.abs s.fb < Scalar.abs s.fa then
    let (p, q) ← s.interpolate
    let (p, q) := settleSign p q
    let inside := 3.0 * s.half * q - Scalar.abs (resolution * q)
    if 2.0 * p < lesser inside (Scalar.abs (s.e * q)) then
      return (← divide p q, s.d)
    else return (s.half, s.half)
  else return (s.half, s.half)

def target (s : Brent α) (resolution d : α) : α :=
  s.b + (if resolution < Scalar.abs d then d else Scalar.withSign resolution s.half)

/-- The state after a step to `next`, where the value is `value`. -/
def advance (s : Brent α) (d e next value : α) : Brent α :=
  { s with a := s.b, fa := s.fb, b := next, fb := value, d := d, e := e }

/-- The bracket of a state, from its best estimate to the point opposite. -/
def bracket (s : Brent α) : Bracket α := ⟨s.b, s.fb, s.c, s.fc⟩

/-- One iteration: the ending, or the state in which the next one begins. -/
def round (f : α → Except ε α) (tolerance : α) (done : Nat) (s : Brent α) :
    Except (Failure α ε) (Ending α ⊕ Brent α) := do
  let s := s.prepare
  let resolution := s.resolution tolerance
  if Scalar.abs s.half ≤ resolution then return .inl (.narrow s.b s.bracket done)
  if Scalar.abs s.fb < tolerance then return .inl (.smallValue s.b s.fb done)
  let (d, e) ← s.stride resolution
  let next := s.target resolution d
  let value ← sample f next
  return .inr (s.advance d e next value)

/-- At most `left` iterations, after `done` before. -/
def iterate (f : α → Except ε α) (tolerance : α) (limit : Int) :
    (left done : Nat) → Brent α → Except (Failure α ε) (Ending α)
  | 0, _, _ => .error (.trouble (.notConverged .brent limit))
  | left + 1, done, s => do
      match ← round f tolerance done s with
      | .inl ending => return ending
      | .inr next => iterate f tolerance limit left (done + 1) next

end Brent

def brent {α ε : Type} [Scalar α] (f : α → Except ε α) (a b tolerance : α) (limit : Int) :
    Except (Failure α ε) (Ending α) := do
  let fa ← sample f a
  let fb ← sample f b
  if !encloses fa fb then throw (.trouble (.noSignChange a fa b fb))
  if fa == 0.0 then return .bound a fa
  Brent.iterate f tolerance limit limit.toNat 0 (Brent.start a fa b fb)

end SciCalc.Root
