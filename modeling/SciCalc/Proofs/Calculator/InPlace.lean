/-
# SciCalc.Proofs.Calculator.InPlace -- commands change a device as they change a calculator

Carried out step by step on the device that a calculator is, a command has the outcome it has
for the calculator and leaves the device of the calculator afterwards (`inPlace_work`), and so
do commands one after the other (`after_device`).  Of a command that fails this says that no
slot had been written by then.

Slots are found by name, registers are not.  What connects them is that the slots of a
calculator have the names of registers, each of which stands for itself (`run_find`), and that
writing a slot of such a name is setting the register (`run_put`).

Every command computes something, which can fail, and then goes over to a next calculator
(`Comes`).  In place the computation is what the first steps do, and the others cannot fail
(`Comes.inPlace`).
-/
import SciCalc.Calculator.Device
import SciCalc.Proofs.Evaluation.Bindings

namespace SciCalc

set_option autoImplicit false

/-! ## Registers as slots -/

namespace Register

theorem mem_all (r : Register) : r ∈ all := by
  cases r <;> decide

theorem name_inj {r s : Register} : r.name = s.name ↔ r = s := by
  cases r <;> cases s <;> decide

/-- A name stands for a register if it is the register's name when normalised. -/
theorem ofName?_eq_some_iff {text : String} {r : Register} :
    ofName? text = some r ↔ bindingName text = r.name := by
  constructor
  · intro found
    have same := List.find?_some found
    exact (beq_iff_eq.1 same).symm
  · intro same
    rw [ofName?, same]
    cases r <;> decide

theorem ofName?_of_named {text : String} {r : Register} (found : named text = .ok r) :
    ofName? text = some r := by
  rw [named] at found
  split at found <;> cases found
  assumption

theorem ofName?_eq_none_iff {text : String} :
    ofName? text = none ↔ bindingName text ∉ all.map name := by
  rw [ofName?, List.find?_eq_none, List.mem_map]
  constructor
  · rintro none ⟨r, member, same⟩
    exact none r member (beq_iff_eq.2 same)
  · intro outside r member same
    exact outside ⟨r, member, beq_iff_eq.1 same⟩

end Register

theorem Bindings.entries_set_of_mem {b : Bindings} {name : String} (member : name ∈ b.names)
    (value : Option Float) : (b.set name value).entries = replace name value b.entries := by
  rw [set, dif_pos member]

namespace Registers

theorem entries_bindings (r : Registers) :
    r.bindings.entries = Register.all.map fun s => (s.name, some (r.value s)) := by
  have distinct : ((Register.all.map fun s => (s.name, some (r.value s))).map Prod.fst).Nodup := by
    rw [List.map_map]
    show (Register.all.map Register.name).Nodup
    decide
  exact Bindings.entries_foldl_set _ Bindings.empty (fun _ _ => List.not_mem_nil) distinct

/-- The slots are the registers in the order of listing. -/
theorem names_bindings (r : Registers) : r.bindings.names = Register.all.map Register.name := by
  rw [Bindings.names, entries_bindings, List.map_map]
  rfl

theorem name_mem_bindings (r : Registers) (s : Register) : s.name ∈ r.bindings.names := by
  rw [names_bindings]
  exact List.mem_map_of_mem s.mem_all

/-- Where a name stands for no register there is no slot. -/
theorem not_mem_bindings (r : Registers) {text : String} (unknown : Register.ofName? text = none) :
    bindingName text ∉ r.bindings.names := by
  rw [names_bindings]
  exact Register.ofName?_eq_none_iff.1 unknown

theorem bindings_set (r : Registers) (s : Register) (x : Float) :
    r.bindings.set s.name (some x) = (r.set s x).bindings := by
  apply Bindings.ext_entries
  rw [Bindings.entries_set_of_mem (r.name_mem_bindings s), entries_bindings r,
    entries_bindings (r.set s x), Bindings.replace, List.map_map]
  refine List.map_congr_left fun t _ => ?_
  rw [Function.comp_apply, value_set]
  by_cases same : t = s
  · simp [same]
  · have apart : t.name ≠ s.name := mt Register.name_inj.1 same
    simp [same, apart]

theorem get?_bindings (r : Registers) (s : Register) :
    r.bindings.get? s.name = some (some (r.value s)) := by
  have kept : r.set s (r.value s) = r := by
    rw [set, value]
    exact congrArg Registers.mk (Vector.set_getElem_self _)
  have slot := Bindings.get?_set r.bindings s.name s.name (some (r.value s))
  rwa [bindings_set, kept, if_pos rfl] at slot

theorem ext_value {r s : Registers} (same : ∀ t, r.value t = s.value t) : r = s := by
  have each : ∀ i : Fin 10, ∃ t ∈ Register.all, t.index = i := by decide
  have values : r.values = s.values := by
    refine Vector.ext fun i inside => ?_
    obtain ⟨t, -, place⟩ := each ⟨i, inside⟩
    have slot := same t
    simp only [value, place] at slot
    exact slot
  cases r
  cases s
  cases values
  rfl

theorem value_zero (s : Register) : zero.value s = 0.0 :=
  Vector.getElem_replicate _

theorem value_clear (r : Registers) (s : Register) :
    r.clear.value s = if s = .answer then r.value .answer else 0.0 := by
  rw [clear, value_set, value_zero]

/-- The registers with some of them zero, but not the last answer. -/
def zeroing (rs : List Register) (r : Registers) : Registers :=
  rs.foldl (fun r s => if s = .answer then r else r.set s 0.0) r

theorem value_zeroing (rs : List Register) (r : Registers) (s : Register) :
    (zeroing rs r).value s = if s ∈ rs ∧ s ≠ .answer then 0.0 else r.value s := by
  induction rs generalizing r with
  | nil => simp [zeroing]
  | cons t rs ih =>
      rw [zeroing, List.foldl_cons]
      show (zeroing rs _).value s = _
      rw [ih]
      by_cases last : t = .answer
      · subst last
        by_cases same : s = .answer <;> simp [same]
      · rw [if_neg last, value_set]
        by_cases same : s = t <;> simp [same, last]

/-- Making the registers zero one after the other is clearing them. -/
theorem zeroing_all (r : Registers) : zeroing Register.all r = r.clear := by
  refine ext_value fun s => ?_
  rw [value_zeroing, value_clear]
  by_cases last : s = .answer <;> simp [last, s.mem_all]

end Registers

/-! ## Steps on the device of a calculator -/

namespace Work

variable {α β : Type} {first : Work α} {next : α → Work β} {d between : Device}

/-- Where work fails, the device stays as it has been left. -/
theorem run_bind_of_error {notes : List Note} {fault : Fault}
    (ran : first.run d = (⟨notes, .error fault⟩, between)) :
    (first >>= next).run d = (⟨notes, .error fault⟩, between) := by
  show (Work.bind first next).run d = _
  simp only [Work.bind, ran]
  rfl

theorem run_bind_of_ok {notes : List Note} {a : α}
    (ran : first.run d = (⟨notes, .ok a⟩, between)) :
    (first >>= next).run d =
      (⟨notes ++ ((next a).run between).1.notes, ((next a).run between).1.outcome⟩,
        ((next a).run between).2) := by
  show (Work.bind first next).run d = _
  simp only [Work.bind, ran]
  rfl

/-- After a step without notes, work goes on as if there had been none. -/
theorem run_bind_of_pure {a : α} (ran : first.run d = (pure a, between)) :
    (first >>= next).run d = (next a).run between :=
  run_bind_of_ok ran

theorem run_look (computation : Device → Calc α) (d : Device) :
    (look computation).run d = (computation d, d) := rfl

theorem run_change (next : Device → Device) (d : Device) :
    (change next).run d = (pure (), next d) := rfl

theorem run_pure (a : α) (d : Device) : (pure a : Work α).run d = (pure a, d) := rfl

/-- Finding a slot is naming a register. -/
theorem run_find (text : String) (c : Calculator) :
    (find text).run c.device =
      (.ofExcept ((Register.named text).map Register.name), c.device) := by
  rw [find, run_look, Calculator.slots_device, Register.named]
  cases entry : Register.ofName? text with
  | some r =>
      have same := Register.ofName?_eq_some_iff.1 entry
      rw [same, if_pos (c.registers.name_mem_bindings r)]
      rfl
  | none =>
      rw [if_neg (c.registers.not_mem_bindings entry)]
      rfl

theorem run_fetch (r : Register) (c : Calculator) :
    (fetch r.name).run c.device = (pure (c.registers.value r), c.device) := by
  rw [fetch, run_look, Calculator.slots_device, Registers.get?_bindings]

theorem run_put (r : Register) (x : Float) (c : Calculator) :
    (put r.name x).run c.device = (pure (), (c.set r x).device) := by
  have written : (c.set r x).device =
      { c.device with slots := c.device.slots.set r.name (some x) } := by
    rw [Calculator.slots_device, Registers.bindings_set]
    rfl
  rw [written]
  rfl

end Work

theorem Report.bind_assoc {ν ε α β γ : Type} (r : Report ν ε α) (f : α → Report ν ε β)
    (g : β → Report ν ε γ) : r >>= f >>= g = r >>= fun a => f a >>= g := by
  obtain ⟨notes, outcome⟩ := r
  cases outcome with
  | error fault => rfl
  | ok a =>
      show Report.bind (Report.bind ⟨notes, .ok a⟩ f) g = Report.bind ⟨notes, .ok a⟩ _
      simp only [Report.bind]
      show _ = Report.mk (notes ++ (Report.bind (f a) g).notes) (Report.bind (f a) g).outcome
      cases ends : (f a).outcome <;> simp [Report.bind, ends]

namespace Calculator

variable {α : Type} {c : Calculator} {command : Command}

/-! ## Commands as computations with a result -/

/-- A command that computes something and goes over to a next calculator. -/
structure Comes (c : Calculator) (command : Command) (computed : Calc α)
    (value : α → Option Float) (next : α → Calculator) : Prop where
  notes : (c.carryOut command).notes = computed.notes
  outcome : (c.carryOut command).outcome = computed.outcome.map fun a => (value a, next a)

variable {computed : Calc α} {value : α → Option Float} {next : α → Calculator}

theorem Comes.perform_of_ok (comes : c.Comes command computed value next) {notes : List Note}
    {a : α} (success : computed = ⟨notes, .ok a⟩) :
    c.perform command = (⟨notes, .ok (value a)⟩, next a) := by
  have ends := comes.outcome
  rw [success, Except.map] at ends
  simp only [perform, ends, comes.notes, success]

theorem Comes.perform_of_error (comes : c.Comes command computed value next) {notes : List Note}
    {fault : Fault} (failure : computed = ⟨notes, .error fault⟩) :
    c.perform command = (⟨notes, .error fault⟩, c) := by
  have ends := comes.outcome
  rw [failure, Except.map] at ends
  simp only [perform, ends, comes.notes, failure]

theorem comes_answer {computed : Calc Float} {next : Float → Calculator}
    (carries : c.carryOut command = answered (do let x ← computed; return (x, next x))) :
    c.Comes command computed some next := by
  obtain ⟨notes, outcome⟩ := computed
  cases outcome with
  | ok x =>
      refine ⟨?_, by rw [carries]; rfl⟩
      rw [carries]
      show notes ++ [] ++ [] = notes
      rw [List.append_nil, List.append_nil]
  | error fault => exact ⟨by rw [carries]; rfl, by rw [carries]; rfl⟩

theorem comes_evaluate (expression : String) :
    c.Comes (.evaluate expression) (SciCalc.evaluate c.context c.strict expression) some
      (c.set .answer) :=
  comes_answer rfl

theorem comes_integrate (expression argument : String) (a b tolerance : Float) (depth : Int) :
    c.Comes (.integrate expression argument a b tolerance depth)
      (SciCalc.integrate (c.subject expression argument) a b tolerance depth) some
      (c.set .answer) :=
  comes_answer rfl

theorem comes_read (text : String) :
    c.Comes (.read text) (.ofExcept (Register.named text)) (fun r => some (c.registers.value r))
      fun _ => c := by
  cases named : Register.named text <;>
    exact ⟨rfl, by rw [carryOut, valueIn, named]; rfl⟩

theorem comes_store (text : String) (x : Float) :
    c.Comes (.store text x)
      (do
        let r ← Report.ofExcept (Register.named text)
        Report.note (.stored x text)
        return r)
      (fun _ => none) fun r => c.set r x := by
  cases named : Register.named text <;>
    exact ⟨by rw [carryOut, store, named]; rfl, by rw [carryOut, store, named]; rfl⟩

theorem comes_add (text : String) (x : Float) :
    c.Comes (.add text x) (.ofExcept (Register.named text)) (fun _ => none)
      fun r => c.set r (c.registers.value r + x) := by
  cases named : Register.named text <;>
    exact ⟨by rw [carryOut, add, named]; rfl, by rw [carryOut, add, named]; rfl⟩

theorem comes_subtract (text : String) (x : Float) :
    c.Comes (.subtract text x) (.ofExcept (Register.named text)) (fun _ => none)
      fun r => c.set r (c.registers.value r + -x) :=
  ⟨(comes_add text (-x)).notes, (comes_add text (-x)).outcome⟩

theorem comes_clearRegister (text : String) :
    c.Comes (.clear (some text)) (.ofExcept (Register.named text)) (fun _ => none)
      fun r => c.set r 0.0 := by
  cases named : Register.named text <;>
    exact ⟨by rw [carryOut, clearRegister, named]; rfl, by rw [carryOut, clearRegister, named]; rfl⟩

theorem comes_clearAll :
    c.Comes (.clear none) (pure ()) (fun _ => none) fun _ => c.clearAll :=
  ⟨rfl, rfl⟩

theorem comes_solve (equation argument : String) (guess : Option Float) (options : Solve.Options) :
    c.Comes (.solve equation argument guess options)
      (do
        let expression ← Report.ofExcept (Calculator.equation equation)
        SciCalc.solve (c.subject expression (bindingName argument))
          { options with guess := guess.getD (c.defaultGuess argument) })
      some (c.keepRoot argument) := by
  apply comes_answer
  rw [carryOut, solve, Report.bind_assoc]

theorem comes_setUnit (name : String) :
    c.Comes (.setUnit name) (.ofExcept (AngleUnit.named name)) (fun _ => none)
      fun unit => { c with unit := unit } := by
  cases named : AngleUnit.named name <;>
    exact ⟨rfl, by rw [carryOut, named]; rfl⟩

/-! ## The steps of a command -/

/-- Work on the device has the outcome of a command and leaves the device of the calculator
after it. -/
def InPlace (c : Calculator) (command : Command) (work : Work (Option Float)) : Prop :=
  work.run c.device = ((c.perform command).1, (c.perform command).2.device)

/-- A command whose first step computes what it computes, up to how it is seen, and writes
nothing, and whose other steps cannot fail. -/
theorem Comes.inPlace {β : Type} (comes : c.Comes command computed value next) (view : α → β)
    {first : Work β} {work : β → Work (Option Float)}
    (ran : first.run c.device = (⟨computed.notes, computed.outcome.map view⟩, c.device))
    (onwards : ∀ a, (work (view a)).run c.device = (pure (value a), (next a).device)) :
    c.InPlace command (first >>= work) := by
  obtain ⟨notes, outcome⟩ := computed
  rw [InPlace]
  cases outcome with
  | error fault => rw [comes.perform_of_error rfl, Work.run_bind_of_error ran]
  | ok a =>
      rw [comes.perform_of_ok rfl, Work.run_bind_of_ok ran, onwards]
      show (Report.mk (notes ++ []) _, _) = _
      rw [List.append_nil]
      rfl

/-- A computation as the first step. -/
theorem Comes.inPlace_look (comes : c.Comes command computed value next)
    {computation : Device → Calc α} {work : α → Work (Option Float)}
    (same : computation c.device = computed)
    (onwards : ∀ a, (work a).run c.device = (pure (value a), (next a).device)) :
    c.InPlace command (Work.look computation >>= work) := by
  refine comes.inPlace id ?_ onwards
  rw [Work.run_look, same]
  obtain ⟨notes, outcome⟩ := computed
  cases outcome <;> rfl

/-- Finding a slot as the first step. -/
theorem Comes.inPlace_find {text : String} {value : Register → Option Float}
    {next : Register → Calculator}
    (comes : c.Comes command (.ofExcept (Register.named text)) value next)
    {work : String → Work (Option Float)}
    (onwards : ∀ r, (work r.name).run c.device = (pure (value r), (next r).device)) :
    c.InPlace command (Work.find text >>= work) :=
  comes.inPlace Register.name (Work.run_find text c) onwards

theorem run_put_return (r : Register) (x : Float) (value : Option Float) :
    (do Work.put r.name x; return value : Work (Option Float)).run c.device =
      (pure value, (c.set r x).device) := by
  rw [Work.run_bind_of_pure (Work.run_put r x c), Work.run_pure]

theorem inPlace_answer {computed : Calc Float} {computation : Device → Calc Float}
    (comes : c.Comes command computed some (c.set .answer))
    (same : computation c.device = computed) : c.InPlace command (Work.answer computation) :=
  comes.inPlace_look same fun x => run_put_return .answer x (some x)

theorem inPlace_read (text : String) : c.InPlace (.read text) (Command.read text).work := by
  refine (comes_read text).inPlace_find fun r => ?_
  rw [Work.run_bind_of_pure (Work.run_fetch r c), Work.run_pure]

/-- The note is made when the slot has been written. -/
theorem inPlace_store (text : String) (x : Float) :
    c.InPlace (.store text x) (Command.store text x).work := by
  have comes := @comes_store c text x
  have finds := Work.run_find text c
  rw [InPlace, Command.work]
  cases named : Register.named text with
  | error fault =>
      rw [named] at comes finds
      rw [comes.perform_of_error rfl, Work.run_bind_of_error finds]
      rfl
  | ok r =>
      rw [named] at comes finds
      rw [comes.perform_of_ok rfl, Work.run_bind_of_pure finds,
        Work.run_bind_of_pure (Work.run_put r x c), Work.run_bind_of_ok (Work.run_look _ _)]
      rfl

theorem inPlace_add {text : String} {x : Float}
    (comes : c.Comes command (.ofExcept (Register.named text)) (fun _ => none)
      fun r => c.set r (c.registers.value r + x)) :
    c.InPlace command (Work.add text x) := by
  refine comes.inPlace_find fun r => ?_
  rw [Work.run_bind_of_pure (Work.run_fetch r c), run_put_return]

theorem inPlace_clearRegister (text : String) :
    c.InPlace (.clear (some text)) (Command.clear (some text)).work :=
  (comes_clearRegister text).inPlace_find fun r => run_put_return r 0.0 none

theorem run_zero (rs : List Register) (c : Calculator) :
    (Work.zero (rs.map Register.name)).run c.device =
      (pure (), ({ c with registers := c.registers.zeroing rs } : Calculator).device) := by
  induction rs generalizing c with
  | nil => exact Work.run_pure () _
  | cons r rs ih =>
      rw [List.map_cons, Work.zero, Registers.zeroing, List.foldl_cons]
      by_cases last : r = .answer
      · rw [if_neg (by simp [last]), if_pos last]
        exact ih c
      · have apart : r.name ≠ Register.answer.name := mt Register.name_inj.1 last
        rw [if_pos apart, if_neg last, Work.run_bind_of_pure (Work.run_put r 0.0 c)]
        exact ih (c.set r 0.0)

theorem inPlace_clearAll : c.InPlace (.clear none) (Command.clear none).work := by
  have names : (Work.look fun d => pure d.slots.names).run c.device =
      (pure (Register.all.map Register.name), c.device) := by
    rw [Work.run_look, slots_device, Registers.names_bindings]
  rw [InPlace, Command.work, comes_clearAll.perform_of_ok rfl, Work.run_bind_of_pure names,
    Work.run_bind_of_pure (run_zero Register.all c), Registers.zeroing_all, Work.run_pure]
  rfl

theorem inPlace_setUnit (name : String) :
    c.InPlace (.setUnit name) (Command.setUnit name).work := by
  refine (comes_setUnit name).inPlace_look rfl fun unit => ?_
  have turns : (Work.change fun d => { d with unit := unit }).run c.device =
      (pure (), ({ c with unit := unit } : Calculator).device) := by
    rw [Work.run_change, device, device]
  rw [Work.run_bind_of_pure turns, Work.run_pure]

theorem valueOrZero_device (c : Calculator) (argument : String) :
    c.device.valueOrZero (bindingName argument) = c.defaultGuess argument := by
  rw [Device.valueOrZero, slots_device, defaultGuess]
  cases entry : Register.ofName? argument with
  | some r =>
      rw [Register.ofName?_eq_some_iff.1 entry, Registers.get?_bindings]
  | none => rw [Bindings.get?_eq_none_iff.2 (c.registers.not_mem_bindings entry)]

/-- The last steps of solving: a root is written to the variable's slot, if there is one, and
becomes the last answer. -/
theorem run_keepRoot (argument : String) (root : Float) :
    (do
      let known ← Work.look fun d => pure (decide (bindingName argument ∈ d.slots.names))
      if known then Work.put (bindingName argument) root
      Work.put Register.answer.name root
      return some root : Work (Option Float)).run c.device =
        (pure (some root), (c.keepRoot argument root).device) := by
  have looks : (Work.look fun d => pure (decide (bindingName argument ∈ d.slots.names))).run
      c.device = (pure (decide (bindingName argument ∈ c.registers.bindings.names)), c.device) := by
    rw [Work.run_look, slots_device]
  rw [Work.run_bind_of_pure looks, keepRoot]
  cases entry : Register.ofName? argument with
  | some r =>
      have same := Register.ofName?_eq_some_iff.1 entry
      have slot : decide (bindingName argument ∈ c.registers.bindings.names) = true := by
        rw [same]
        exact decide_eq_true (c.registers.name_mem_bindings r)
      rw [if_pos slot, same, Work.run_bind_of_pure (Work.run_put r root c),
        Work.run_bind_of_pure (Work.run_put .answer root _), Work.run_pure]
  | none =>
      have outside := c.registers.not_mem_bindings entry
      rw [if_neg (by simpa using outside), Work.run_bind_of_pure (Work.run_put .answer root _),
        Work.run_pure]

theorem inPlace_solve (equation argument : String) (guess : Option Float)
    (options : Solve.Options) :
    c.InPlace (.solve equation argument guess options)
      (Command.solve equation argument guess options).work := by
  have comes := @comes_solve c equation argument guess options
  have starts : (Work.look fun d => pure (guess.getD (d.valueOrZero (bindingName argument)))).run
      c.device = (pure (guess.getD (c.defaultGuess argument)), c.device) := by
    rw [Work.run_look, valueOrZero_device]
  rw [InPlace, Command.work, Work.run_bind_of_pure starts]
  cases sides : Calculator.equation equation with
  | error fault =>
      rw [sides] at comes
      rw [comes.perform_of_error rfl, Work.run_bind_of_error (Work.run_look _ _)]
      rfl
  | ok expression =>
      have looks : (Work.look fun _ => Report.ofExcept (Except.ok expression)).run c.device =
          (pure expression, c.device) := rfl
      rw [sides] at comes
      rw [Work.run_bind_of_pure looks]
      exact comes.inPlace_look (by rw [subject_device]; rfl) fun root => run_keepRoot argument root

/-- **In place, a command does what it does on values**: its outcome is the same and so is
the calculator it leaves. -/
theorem inPlace_work (c : Calculator) (command : Command) : c.InPlace command command.work := by
  cases command with
  | evaluate expression =>
      refine inPlace_answer (comes_evaluate expression) ?_
      rw [context_device, device]
  | read text => exact inPlace_read text
  | store text x => exact inPlace_store text x
  | add text x => exact inPlace_add (comes_add text x)
  | subtract text x => exact inPlace_add (comes_subtract text x)
  | clear register =>
      cases register with
      | some text => exact inPlace_clearRegister text
      | none => exact inPlace_clearAll
  | solve equation argument guess options => exact inPlace_solve equation argument guess options
  | integrate expression argument a b tolerance depth =>
      refine inPlace_answer (comes_integrate expression argument a b tolerance depth) ?_
      rw [subject_device]
  | setUnit name => exact inPlace_setUnit name

/-- The device of a new calculator is a new device. -/
theorem device_new (unit : AngleUnit) (strict : Bool) :
    (new unit strict).device = .new unit strict := by
  have slots : Registers.zero.bindings =
      Bindings.ofList (Register.all.map fun r => (r.name, some 0.0)) := by
    rw [Registers.bindings]
    refine congrArg Bindings.ofList (List.map_congr_left fun r _ => ?_)
    rw [Registers.value_zero]
  rw [device, new, Device.new, slots]

/-- And so do commands one after the other, those that fail among them. -/
theorem after_device (c : Calculator) (commands : List Command) :
    c.device.after commands = (c.performAll commands).device := by
  induction commands generalizing c with
  | nil => rfl
  | cons command commands ih =>
      rw [Device.after, performAll, List.foldl_cons, List.foldl_cons, inPlace_work c command]
      exact ih (c.perform command).2

end Calculator

end SciCalc
