/-
# SciCalc.Calculator.Command -- what a calculator can be told to do

Commands name registers and units by text, so each of them can fail.  `perform` gives
the outcome of a command and the calculator after it; after a failure that is the
calculator as it was.
-/
import SciCalc.Calculator.Basic

namespace SciCalc

set_option autoImplicit false

inductive Command
  | evaluate (expression : String)
  | read (register : String)
  | store (register : String) (value : Float)
  | add (register : String) (value : Float)
  | subtract (register : String) (value : Float)
  /-- One register, or all but the last answer. -/
  | clear (register : Option String)
  | solve (equation argument : String) (guess : Option Float) (options : Solve.Options)
  | integrate (expression argument : String) (a b tolerance : Float) (depth : Int)
  | setUnit (name : String)

namespace Calculator

/-- A computed value is the answer to a command. -/
def answered (result : Calc (Float × Calculator)) : Calc (Option Float × Calculator) := do
  let (value, calculator) ← result
  return (some value, calculator)

/-- A changed calculator is all there is to a command. -/
def changed (result : Calc Calculator) : Calc (Option Float × Calculator) := do
  let calculator ← result
  return (none, calculator)

/-- The value of a command, if it has one, and the calculator that it leads to. -/
def carryOut (c : Calculator) : Command → Calc (Option Float × Calculator)
  | .evaluate expression => answered (c.evaluate expression)
  | .read register => Report.ofExcept do
      let value ← c.valueIn register
      return (some value, c)
  | .store register value => changed (c.store register value)
  | .add register value => changed (Report.ofExcept (c.add register value))
  | .subtract register value => changed (Report.ofExcept (c.subtract register value))
  | .clear (some register) => changed (Report.ofExcept (c.clearRegister register))
  | .clear none => changed (return c.clearAll)
  | .solve equation argument guess options =>
      answered (c.solve equation argument guess options)
  | .integrate expression argument a b tolerance depth =>
      answered (c.integrate expression argument a b tolerance depth)
  | .setUnit name => Report.ofExcept do
      let unit ← AngleUnit.named name
      return (none, { c with unit := unit })

/-- Carry out a command: its value, if it has one, and the calculator afterwards. -/
def perform (c : Calculator) (command : Command) : Calc (Option Float) × Calculator :=
  let result := c.carryOut command
  match result.outcome with
  | .ok (value, after) => (⟨result.notes, .ok value⟩, after)
  | .error fault => (⟨result.notes, .error fault⟩, c)

def performAll (c : Calculator) (commands : List Command) : Calculator :=
  commands.foldl (fun c command => (c.perform command).2) c

end Calculator

end SciCalc
