/-
# SciCalc.Report -- outcomes with notes

A computation may have something to tell whether or not it succeeds.  A report is
an outcome together with the notes made on the way, in order; notes made before a
failure are kept.
-/
namespace SciCalc

set_option autoImplicit false

/-- Notes of type `ν` and a result of type `α` or a fault of type `ε`. -/
structure Report (ν ε α : Type) where
  notes : List ν
  outcome : Except ε α

namespace Report

variable {ν ν' ε ε' α β : Type}

protected def pure (a : α) : Report ν ε α := ⟨[], .ok a⟩

protected def bind (r : Report ν ε α) (next : α → Report ν ε β) : Report ν ε β :=
  match r.outcome with
  | .ok a => ⟨r.notes ++ (next a).notes, (next a).outcome⟩
  | .error e => ⟨r.notes, .error e⟩

instance : Monad (Report ν ε) where
  pure := Report.pure
  bind := Report.bind

def fail (e : ε) : Report ν ε α := ⟨[], .error e⟩

def ofExcept (outcome : Except ε α) : Report ν ε α := ⟨[], outcome⟩

def tell (notes : List ν) : Report ν ε Unit := ⟨notes, .ok ()⟩

def note (n : ν) : Report ν ε Unit := tell [n]

/-- The outcome as a value, so that a failure can be looked at. -/
def attempt (r : Report ν ε α) : Report ν ε' (Except ε α) := ⟨r.notes, .ok r.outcome⟩

/-- The same report with other notes and faults in place of its own. -/
def relabel (onNote : ν → ν') (onFault : ε → ε') (r : Report ν ε α) : Report ν' ε' α :=
  ⟨r.notes.map onNote, r.outcome.mapError onFault⟩

theorem outcome_bind_ok (r : Report ν ε α) (next : α → Report ν ε β) (a : α)
    (success : r.outcome = .ok a) : (r >>= next).outcome = (next a).outcome := by
  show (Report.bind r next).outcome = _
  simp [Report.bind, success]

theorem outcome_bind_error (r : Report ν ε α) (next : α → Report ν ε β) (e : ε)
    (failure : r.outcome = .error e) : (r >>= next).outcome = .error e := by
  show (Report.bind r next).outcome = _
  simp [Report.bind, failure]

end Report

end SciCalc
