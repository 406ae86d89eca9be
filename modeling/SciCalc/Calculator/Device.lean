/-
# SciCalc.Calculator.Device -- a calculator that is changed in place

The memory of a device is slots found by name.  A command is work in steps: each looks
something up, computes something from the device as it is, or writes one slot (`Work`).
What is written stays written when a later step fails, and a slot written under a new name
would be a new slot.

So nothing about a device makes a failed command harmless, or keeps its slots to the ten
registers; the steps have to be in the right order and to check the right names
(`Command.work`).
-/
import SciCalc.Calculator.Command

namespace SciCalc

set_option autoImplicit false

/-- An angle unit, a way to treat unknown characters, and slots. -/
structure Device where
  unit : AngleUnit
  strict : Bool
  slots : Bindings

namespace Device

/-- A device with a slot at zero for every register. -/
def new (unit : AngleUnit) (strict : Bool) : Device :=
  ⟨unit, strict, Bindings.ofList (Register.all.map fun register => (register.name, some 0.0))⟩

def context (d : Device) : Context := Context.new d.unit d.slots

def subject (d : Device) (expression argument : String) : Subject :=
  ⟨expression, argument, d.context, d.strict⟩

/-- The value of a slot, or zero where there is none. -/
def valueOrZero (d : Device) (name : String) : Float :=
  match d.slots.get? name with
  | some (some x) => x
  | _ => 0.0

end Device

/-- Work on a device: its outcome, and the device as it is left in either case. -/
structure Work (α : Type) where
  run : Device → Calc α × Device

namespace Work

variable {α β : Type}

def look (computation : Device → Calc α) : Work α := ⟨fun d => (computation d, d)⟩

def change (next : Device → Device) : Work Unit := ⟨fun d => (pure (), next d)⟩

/-- One piece of work after another.  Where the first fails, the device stays as the first
has left it. -/
protected def bind (first : Work α) (next : α → Work β) : Work β where
  run d :=
    let (report, between) := first.run d
    (report >>= fun a => ((next a).run between).1,
      match report.outcome with
      | .ok a => ((next a).run between).2
      | .error _ => between)

instance : Monad Work where
  pure a := look fun _ => pure a
  bind := Work.bind

/-- The slot that a register name stands for. -/
def find (text : String) : Work String := look fun d =>
  let name := bindingName text
  if name ∈ d.slots.names then pure name else Report.fail (.unknownRegister text)

def fetch (name : String) : Work Float := look fun d =>
  match d.slots.get? name with
  | some (some x) => pure x
  | _ => Report.fail (.noEntry name)

def put (name : String) (x : Float) : Work Unit :=
  change fun d => { d with slots := d.slots.set name (some x) }

/-- A successful computation is kept as the last answer. -/
def answer (computation : Device → Calc Float) : Work (Option Float) := do
  let x ← look computation
  put Register.answer.name x
  return some x

def add (text : String) (x : Float) : Work (Option Float) := do
  let name ← find text
  let old ← fetch name
  put name (old + x)
  return none

/-- Make slots zero, all but the last answer. -/
def zero : List String → Work Unit
  | [] => pure ()
  | name :: names => do
      if name ≠ Register.answer.name then put name 0.0
      zero names

end Work

open Work in
def Command.work : Command → Work (Option Float)
  | evaluate expression => answer fun d => SciCalc.evaluate d.context d.strict expression
  | read text => do
      let name ← find text
      let x ← fetch name
      return some x
  | store text x => do
      let name ← find text
      put name x
      look fun _ => Report.note (.stored x text)
      return none
  | add text x => Work.add text x
  | subtract text x => Work.add text (-x)
  | clear (some text) => do
      let name ← find text
      put name 0.0
      return none
  | clear none => do
      let names ← look fun d => pure d.slots.names
      zero names
      return none
  | solve equation argument guess options => do
      let name := bindingName argument
      let start ← look fun d => pure (guess.getD (d.valueOrZero name))
      let expression ← look fun _ => Report.ofExcept (Calculator.equation equation)
      let root ← look fun d =>
        SciCalc.solve (d.subject expression name) { options with guess := start }
      let known ← look fun d => pure (decide (name ∈ d.slots.names))
      if known then put name root
      put Register.answer.name root
      return some root
  | integrate expression argument a b tolerance depth =>
      answer fun d => SciCalc.integrate (d.subject expression argument) a b tolerance depth
  | setUnit name => do
      let unit ← look fun _ => Report.ofExcept (AngleUnit.named name)
      change fun d => { d with unit := unit }
      return none

/-- The device after several commands, failed ones included. -/
def Device.after (d : Device) (commands : List Command) : Device :=
  commands.foldl (fun d command => (command.work.run d).2) d

namespace Calculator

def device (c : Calculator) : Device := ⟨c.unit, c.strict, c.registers.bindings⟩

theorem slots_device (c : Calculator) : c.device.slots = c.registers.bindings := by
  rw [device]

theorem context_device (c : Calculator) : c.device.context = c.context := by
  rw [Device.context, context, device]

theorem subject_device (c : Calculator) (expression argument : String) :
    c.device.subject expression argument = c.subject expression argument := by
  rw [Device.subject, subject, context_device, device]

end Calculator

end SciCalc
