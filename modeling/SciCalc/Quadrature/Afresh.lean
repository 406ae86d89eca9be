/-
# SciCalc.Quadrature.Afresh -- the adaptive rule without samples carried over

An interval of the adaptive rule gets the values at its ends and its middle from the
interval that it is a half of.  Here every interval takes them again before those at its
quarter points (`refineAfresh`).  The coarse estimate is handed down as before: computed
anew, from a sixth of the half's width, it could be rounded in another way.

Which points are looked at, and in what order, depends on the values found.  A `Course`
lists the points that come to be looked at when the values are known, whether or not the
function has them, and what is accepted in the end.
-/
import SciCalc.Quadrature.Simpson

namespace SciCalc.Quadrature

set_option autoImplicit false

open SciCalc.Number

variable {α ε : Type} [Scalar α]

/-- The quarter points and the estimates on the halves of an interval, with no value known. -/
def freshHalves (f : α → Except ε α) (a b : α) : Except (Failure α ε) (Halves α) := do
  let fa ← sample f a
  let fb ← sample f b
  let fm ← sample f (middle a b)
  halves f a b fa fb fm

/-- Refine the estimate `whole` of an interval by halvings, all samples taken anew. -/
def refineAfresh (f : α → Except ε α) (cut : Bool) :
    (depth : Nat) → (a b tolerance whole : α) → Except (Failure α ε) (Refinement α)
  | 0, a, b, tolerance, whole => do
      let h ← freshHalves f a b
      if cut && !agree whole h.sum tolerance then throw (.trouble .tooDeep)
      return .accepted ⟨a, b, tolerance, whole, h.sum⟩
  | depth + 1, a, b, tolerance, whole => do
      let h ← freshHalves f a b
      if agree whole h.sum tolerance then
        return .accepted ⟨a, b, tolerance, whole, h.sum⟩
      else
        let left ← refineAfresh f cut depth a (middle a b) (tolerance / 2.0) h.left
        let right ← refineAfresh f cut depth (middle a b) b (tolerance / 2.0) h.right
        return .halved left right

/-- The integral over the range from `a` up to `b`, all samples taken anew. -/
def integrateAfresh (f : α → Except ε α) (a b tolerance : α) (depth : Int)
    (nesting : Option Nat) : Except (Failure α ε) α := do
  let whole ← simpson f a b
  let limit := nesting.getD depth.toNat
  let tree ← refineAfresh f (limit < depth.toNat) (min depth.toNat limit) a b tolerance whole
  return tree.value

/-! ## Courses -/

/-- The points that come to be looked at, in order, and what is accepted, if no interval
would have to be halved more often than halvings can be nested. -/
structure Course (α : Type) where
  points : List α
  accepted : Option (Refinement α)

namespace Course

/-- One course and then another, which is only taken if the first one accepts. -/
def andThen (left right : Course α) : Course α :=
  match left.accepted with
  | none => left
  | some tree => ⟨left.points ++ right.points, right.accepted.map (.halved tree)⟩

def behind (points : List α) (c : Course α) : Course α := { c with points := points ++ c.points }

end Course

/-- The two points that an interval takes beside its ends and its middle. -/
def quarterPoints (a b : α) : List α := [middle a (middle a b), middle (middle a b) b]

/-- The halves of an interval where the values are known. -/
def knownHalves (value : α → α) (a b : α) : Halves α :=
  let fl := value (middle a (middle a b))
  let fr := value (middle (middle a b) b)
  let fm := value (middle a b)
  ⟨fl, fr, (b - a) / 12.0 * (value a + 4.0 * fl + fm), (b - a) / 12.0 * (fm + 4.0 * fr + value b)⟩

/-- The course of the halvings of an interval: its quarter points, then the left half, then
the right half. -/
def courseOfHalving (value : α → α) (cut : Bool) :
    (depth : Nat) → (a b tolerance whole : α) → Course α
  | 0, a, b, tolerance, whole =>
      let h := knownHalves value a b
      ⟨quarterPoints a b, if cut && !agree whole h.sum tolerance then none
        else some (.accepted ⟨a, b, tolerance, whole, h.sum⟩)⟩
  | depth + 1, a, b, tolerance, whole =>
      let h := knownHalves value a b
      if agree whole h.sum tolerance then
        ⟨quarterPoints a b, some (.accepted ⟨a, b, tolerance, whole, h.sum⟩)⟩
      else
        let left := courseOfHalving value cut depth a (middle a b) (tolerance / 2.0) h.left
        let right := courseOfHalving value cut depth (middle a b) b (tolerance / 2.0) h.right
        (left.andThen right).behind (quarterPoints a b)

/-- The course of integration over the range from `a` up to `b`: the ends, the middle, and then
the halvings. -/
def courseOfIntegral (value : α → α) (a b tolerance : α) (depth : Int) (nesting : Option Nat) :
    Course α :=
  let limit := nesting.getD depth.toNat
  (courseOfHalving value (limit < depth.toNat) (min depth.toNat limit) a b tolerance
    (estimate a b (value a) (value b) (value (middle a b)))).behind [a, b, middle a b]

/-- Sample a function at points in their order, for nothing but the failures. -/
def sampleAll (f : α → Except ε α) : List α → Except (Failure α ε) Unit
  | [] => .ok ()
  | x :: xs => do
      let _ ← sample f x
      sampleAll f xs

/-- Sample a function along a course, and accept what the course does. -/
def Course.follow (f : α → Except ε α) (c : Course α) : Except (Failure α ε) (Refinement α) := do
  sampleAll f c.points
  match c.accepted with
  | some tree => return tree
  | none => throw (.trouble .tooDeep)

/-- The values of a function, and zero where it has none. -/
def knownValue (f : α → Except ε α) (x : α) : α :=
  match f x with
  | .ok y => y
  | .error _ => 0.0

end SciCalc.Quadrature
