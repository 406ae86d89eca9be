/-
# SciCalc.Calculator.Register -- the memory registers

There are ten registers, all zero at first.  One of them, `Ans`, holds the last
answer.  A register is named as a variable is: one letter in either case stands for
the upper-case one.
-/
import SciCalc.Evaluation.Context

namespace SciCalc

set_option autoImplicit false

inductive Register
  | M | A | B | C | D | E | F | X | Y
  | answer
deriving DecidableEq, Repr

namespace Register

def all : List Register := [M, A, B, C, D, E, F, X, Y, answer]

def name : Register → String
  | M => "M"
  | A => "A"
  | B => "B"
  | C => "C"
  | D => "D"
  | E => "E"
  | F => "F"
  | X => "X"
  | Y => "Y"
  | answer => "Ans"

def ofName? (text : String) : Option Register := all.find? (·.name == bindingName text)

/-- The register of a name, or the fault that it is none. -/
def named (text : String) : Except Fault Register :=
  match ofName? text with
  | some register => .ok register
  | none => .error (.unknownRegister text)

end Register

namespace Register

/-- The place of a register in the order of listing. -/
def index : Register → Fin 10
  | M => 0
  | A => 1
  | B => 2
  | C => 3
  | D => 4
  | E => 5
  | F => 6
  | X => 7
  | Y => 8
  | answer => 9

theorem index_inj {r s : Register} : r.index = s.index ↔ r = s := by
  cases r <;> cases s <;> decide

end Register

/-- The values of the registers, in the order of listing. -/
structure Registers where
  values : Vector Float 10
deriving DecidableEq

namespace Registers

def value (r : Registers) (register : Register) : Float := r.values[register.index]

def zero : Registers := ⟨Vector.replicate 10 0.0⟩

def set (r : Registers) (register : Register) (value : Float) : Registers :=
  ⟨r.values.set register.index value⟩

theorem value_set (r : Registers) (register other : Register) (value : Float) :
    (r.set register value).value other =
      if other = register then value else r.value other := by
  by_cases same : other = register
  · simp [same, set, Registers.value]
  · have apart : (register.index : Nat) ≠ other.index := fun equal =>
      same (Register.index_inj.1 (Fin.ext equal.symm))
    simp [same, set, Registers.value, apart]

/-- The registers with all but the last answer zero. -/
def clear (r : Registers) : Registers := zero.set .answer (r.value .answer)

def bindings (r : Registers) : Bindings :=
  Bindings.ofList (Register.all.map fun register => (register.name, some (r.value register)))

end Registers

end SciCalc
