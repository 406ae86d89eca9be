/-
# SciCalc.Proofs.Calculator.Consistency -- what commands do to the registers

A command that fails changes nothing, and one that succeeds has an effect that is told in
full: which registers have which values, and that everything else is as it was
(`Command.Effect`, `effect_of_perform`).  So it is after any commands on a new calculator,
and the slots in place are the ten registers all the while (`performAll_consistent`).
-/
import SciCalc.Proofs.Calculator.InPlace

namespace SciCalc

set_option autoImplicit false

namespace Calculator

/-- Some registers may differ, and nothing else does. -/
structure SameBut (changed : List Register) (c d : Calculator) : Prop where
  unit : d.unit = c.unit
  strict : d.strict = c.strict
  kept : ∀ r, r ∉ changed → d.registers.value r = c.registers.value r

/-- What a computation gave is the value of a command and the last answer. -/
def Answered (c : Calculator) (computed : Calc Float) (value : Option Float) (d : Calculator) :
    Prop :=
  ∃ x, computed.outcome = .ok x ∧ value = some x ∧ d.registers.value .answer = x ∧
    SameBut [.answer] c d

/-- The register of a name has changed as given. -/
def Wrote (c : Calculator) (text : String) (change : Float → Float) (d : Calculator) : Prop :=
  ∃ r, Register.ofName? text = some r ∧
    d.registers.value r = change (c.registers.value r) ∧ SameBut [r] c d

end Calculator

open Calculator in
/-- What a command does to a calculator if it succeeds. -/
def Command.Effect (c : Calculator) (value : Option Float) (d : Calculator) : Command → Prop
  | evaluate expression => c.Answered (SciCalc.evaluate c.context c.strict expression) value d
  | integrate expression argument a b tolerance depth =>
      c.Answered (SciCalc.integrate (c.subject expression argument) a b tolerance depth) value d
  | read text => ∃ r, Register.ofName? text = some r ∧ value = some (c.registers.value r) ∧ d = c
  | store text x => c.Wrote text (fun _ => x) d
  | add text x => c.Wrote text (· + x) d
  | subtract text x => c.Wrote text (· + -x) d
  | clear (some text) => c.Wrote text (fun _ => 0.0) d
  | clear none =>
      (∀ r, r ≠ .answer → d.registers.value r = 0.0) ∧
        SameBut (Register.all.erase .answer) c d
  | solve _ argument _ _ =>
      ∃ root, value = some root ∧
        (∀ r, r = .answer ∨ Register.ofName? argument = some r → d.registers.value r = root) ∧
        SameBut (.answer :: (Register.ofName? argument).toList) c d
  | setUnit name =>
      AngleUnit.ofName? name = some d.unit ∧ d.strict = c.strict ∧ d.registers = c.registers

namespace Calculator

variable {c : Calculator} {command : Command}

theorem value_set (c : Calculator) (r s : Register) (x : Float) :
    (c.set r x).registers.value s = if s = r then x else c.registers.value s := by
  rw [set, Registers.value_set]

theorem sameBut_set (c : Calculator) (r : Register) (x : Float) : SameBut [r] c (c.set r x) where
  unit := rfl
  strict := rfl
  kept s outside := by
    rw [value_set, if_neg (by simpa using outside)]

/-- A command that fails changes nothing. -/
theorem perform_failed {fault : Fault} (failed : (c.perform command).1.outcome = .error fault) :
    (c.perform command).2 = c := by
  rw [perform] at failed ⊢
  split at failed
  · cases failed
  · rfl

theorem Comes.of_success {α : Type} {computed : Calc α} {value : α → Option Float}
    {next : α → Calculator} (comes : c.Comes command computed value next) {result : Option Float}
    (success : (c.perform command).1.outcome = .ok result) :
    ∃ a, computed.outcome = .ok a ∧ result = value a ∧ (c.perform command).2 = next a := by
  obtain ⟨notes, outcome⟩ := computed
  cases outcome with
  | error fault =>
      rw [comes.perform_of_error rfl] at success
      cases success
  | ok a =>
      rw [comes.perform_of_ok rfl] at success ⊢
      cases success
      exact ⟨a, rfl, rfl, rfl⟩

theorem Comes.answered {computed : Calc Float}
    (comes : c.Comes command computed some (c.set .answer)) {result : Option Float}
    (success : (c.perform command).1.outcome = .ok result) :
    c.Answered computed result (c.perform command).2 := by
  obtain ⟨x, computes, rfl, next⟩ := comes.of_success success
  rw [next]
  exact ⟨x, computes, rfl, by rw [value_set, if_pos rfl], c.sameBut_set .answer x⟩

theorem Comes.wrote {text : String} {computed : Calc Register} {value : Register → Option Float}
    (change : Float → Float)
    (comes : c.Comes command computed value fun r => c.set r (change (c.registers.value r)))
    (names : computed.outcome = Register.named text) {result : Option Float}
    (success : (c.perform command).1.outcome = .ok result) :
    c.Wrote text change (c.perform command).2 := by
  obtain ⟨r, computes, -, next⟩ := comes.of_success success
  rw [names] at computes
  rw [next]
  exact ⟨r, Register.ofName?_of_named computes, by rw [value_set, if_pos rfl], c.sameBut_set r _⟩

theorem keepRoot_effect (c : Calculator) (argument : String) (root : Float) :
    (∀ r, r = .answer ∨ Register.ofName? argument = some r →
        (c.keepRoot argument root).registers.value r = root) ∧
      SameBut (.answer :: (Register.ofName? argument).toList) c (c.keepRoot argument root) := by
  rw [keepRoot]
  cases Register.ofName? argument with
  | none =>
      refine ⟨fun r one => ?_, c.sameBut_set .answer root⟩
      obtain rfl : r = .answer := by simpa using one
      rw [value_set, if_pos rfl]
  | some own =>
      refine ⟨fun r one => ?_, rfl, rfl, fun r outside => ?_⟩
      · rw [value_set, value_set]
        rcases one with rfl | same
        · rw [if_pos rfl]
        · cases same
          rw [if_pos rfl, ite_self]
      · have apart : r ≠ .answer ∧ r ≠ own := by simpa using outside
        rw [value_set, if_neg apart.1, value_set, if_neg apart.2]

theorem clearAll_effect (c : Calculator) :
    (∀ r, r ≠ .answer → c.clearAll.registers.value r = 0.0) ∧
      SameBut (Register.all.erase .answer) c c.clearAll := by
  refine ⟨fun r other => ?_, rfl, rfl, fun r outside => ?_⟩
  · rw [clearAll, Registers.value_clear, if_neg other]
  · have last : r = .answer := by
      cases r <;> first | rfl | exact absurd (by decide) outside
    rw [clearAll, Registers.value_clear, if_pos last, last]

/-- **A command that succeeds has its effect.** -/
theorem effect_of_perform {result : Option Float}
    (success : (c.perform command).1.outcome = .ok result) :
    command.Effect c result (c.perform command).2 := by
  cases command with
  | evaluate expression => exact (comes_evaluate expression).answered success
  | integrate expression argument a b tolerance depth =>
      exact (comes_integrate expression argument a b tolerance depth).answered success
  | read text =>
      obtain ⟨r, named, value, next⟩ := (comes_read text).of_success success
      exact ⟨r, Register.ofName?_of_named named, value, next⟩
  | store text x =>
      refine (comes_store text x).wrote (fun _ => x) ?_ success
      cases Register.named text <;> rfl
  | add text x => exact (comes_add text x).wrote (· + x) rfl success
  | subtract text x => exact (comes_subtract text x).wrote (· + -x) rfl success
  | clear register =>
      cases register with
      | some text => exact (comes_clearRegister text).wrote (fun _ => 0.0) rfl success
      | none =>
          obtain ⟨-, -, -, next⟩ := comes_clearAll.of_success success
          rw [next]
          exact c.clearAll_effect
  | solve equation argument guess options =>
      obtain ⟨root, -, value, next⟩ :=
        (comes_solve equation argument guess options).of_success success
      rw [next]
      exact ⟨root, value, c.keepRoot_effect argument root⟩
  | setUnit name =>
      obtain ⟨unit, named, -, next⟩ := (comes_setUnit name).of_success success
      rw [next]
      refine ⟨?_, rfl, rfl⟩
      rw [Report.ofExcept, AngleUnit.named] at named
      split at named <;> cases named
      assumption

/-- **Every run keeps the registers consistent.**  After any commands on a new calculator,
whether they succeeded or failed, the next one fails without a trace or has its effect and no
other.  All the while the slots are the ten registers, and the device on which each step is
taken in place, so that a failure leaves what has been written, is the same. -/
theorem performAll_consistent (unit : AngleUnit) (strict : Bool) (before : List Command)
    (command : Command) :
    let c := (new unit strict).performAll before
    let report := (c.perform command).1
    let d := (c.perform command).2
    (Device.new unit strict).after before = c.device ∧
      command.work.run c.device = (report, d.device) ∧
      d.device.slots.names = ["M", "A", "B", "C", "D", "E", "F", "X", "Y", "Ans"] ∧
      match report.outcome with
      | .error _ => d = c
      | .ok result => command.Effect c result d := by
  intro c report d
  refine ⟨?_, c.inPlace_work command, ?_, ?_⟩
  · rw [← device_new, after_device]
  · rw [slots_device, Registers.names_bindings]
    rfl
  · cases ends : report.outcome with
    | error fault => exact perform_failed ends
    | ok result => exact effect_of_perform ends

end Calculator

end SciCalc
