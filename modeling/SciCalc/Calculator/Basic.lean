/-
# SciCalc.Calculator.Basic -- a calculator with memory

A calculator has an angle unit, registers, and a way to treat unknown characters.
Expressions read the registers as variables.  A computation works on a snapshot of
them, and only its success changes the calculator: an evaluation or an integral
becomes the last answer, a root also the value of the variable solved for, if that
is a register.

An equation is solved as the difference of its sides (`equation`).
-/
import SciCalc.Calculator.Register
import SciCalc.Integrate

namespace SciCalc

set_option autoImplicit false

/-- The state of a calculator. -/
structure Calculator where
  unit : AngleUnit
  strict : Bool
  registers : Registers

namespace Calculator

/-- A calculator with all registers zero. -/
def new (unit : AngleUnit) (strict : Bool) : Calculator := ⟨unit, strict, Registers.zero⟩

def context (c : Calculator) : Context := Context.new c.unit c.registers.bindings

def set (c : Calculator) (register : Register) (value : Float) : Calculator :=
  { c with registers := c.registers.set register value }

/-- An expression to work on in a snapshot of the calculator. -/
def subject (c : Calculator) (expression argument : String) : Subject :=
  ⟨expression, argument, c.context, c.strict⟩

/-- A successful computation becomes the last answer. -/
def answering (c : Calculator) (computation : Calc Float) : Calc (Float × Calculator) := do
  let value ← computation
  return (value, c.set .answer value)

def evaluate (c : Calculator) (expression : String) : Calc (Float × Calculator) :=
  c.answering (SciCalc.evaluate c.context c.strict expression)

def store (c : Calculator) (register : String) (value : Float) : Calc Calculator := do
  let target ← Report.ofExcept (Register.named register)
  Report.note (.stored value register)
  return c.set target value

def valueIn (c : Calculator) (register : String) : Except Fault Float := do
  let source ← Register.named register
  return c.registers.value source

def add (c : Calculator) (register : String) (value : Float) : Except Fault Calculator := do
  let target ← Register.named register
  return c.set target (c.registers.value target + value)

def subtract (c : Calculator) (register : String) (value : Float) : Except Fault Calculator :=
  c.add register (-value)

def clearRegister (c : Calculator) (register : String) : Except Fault Calculator := do
  let target ← Register.named register
  return c.set target 0.0

/-- Make all registers but the last answer zero. -/
def clearAll (c : Calculator) : Calculator := { c with registers := c.registers.clear }

def equalsSign : Char := '='

/-- The difference of the sides of an equation; an expression stays as it is. -/
def equation (text : String) : Except Fault String :=
  let left := text.toList.takeWhile (· ≠ equalsSign)
  match text.toList.dropWhile (· ≠ equalsSign) with
  | [] => .ok text
  | _ :: right =>
      if right.contains equalsSign then .error (.secondEquals text)
      else .ok ("(" ++ String.ofList left ++ ")-(" ++ String.ofList right ++ ")")

/-- Where solving for a variable begins unless a guess is given: at its register. -/
def defaultGuess (c : Calculator) (argument : String) : Float :=
  match Register.ofName? argument with
  | some register => c.registers.value register
  | none => 0.0

/-- The calculator with a root as the last answer and in the variable's register. -/
def keepRoot (c : Calculator) (argument : String) (root : Float) : Calculator :=
  let c := match Register.ofName? argument with
    | some register => c.set register root
    | none => c
  c.set .answer root

/-- Solve an expression or an equation for a variable; without a guess from the
variable's register. -/
def solve (c : Calculator) (text argument : String) (guess : Option Float)
    (options : Solve.Options) : Calc (Float × Calculator) := do
  let expression ← Report.ofExcept (equation text)
  let options := { options with guess := guess.getD (c.defaultGuess argument) }
  let root ← SciCalc.solve (c.subject expression (bindingName argument)) options
  return (root, c.keepRoot argument root)

def integrate (c : Calculator) (expression argument : String) (a b tolerance : Float)
    (depth : Int) : Calc (Float × Calculator) :=
  c.answering (SciCalc.integrate (c.subject expression argument) a b tolerance depth)

end Calculator

end SciCalc
