/-
# SciCalc.Proofs.CommandLine.RefusedLine -- what a refused line leaves behind

A run carries out its lines one after the other with one calculator.  What it writes is what
its lines write, each on its own, put together (`perform_eq`); so one can say of a single line
what it writes, and what the others would without it.

A line is refused in one of two places.  If it cannot be computed, the calculator is as it was,
and the other lines write the same with it and without it.  If only its result cannot be
stored, the result has been remembered by then: the lines behind it are carried out with the
last answer, and the register of a variable solved for, at that result (`refused_line`).  So a
line that names no register to store into is not without consequences
(`refused_store_remembered`).
-/
import SciCalc.CommandLine.Session
import SciCalc.Proofs.Outcome

namespace SciCalc.CommandLine

set_option autoImplicit false

/-! ## What is written, line by line -/

deriving instance DecidableEq for Output
deriving instance DecidableEq for Calculator

namespace Output

/-- What is written by one part of a run and then by another. -/
instance : Append Output := ⟨fun w v => ⟨w.out ++ v.out, w.err ++ v.err, v.raised⟩⟩

variable (w v : Output)

theorem append_def : w ++ v = ⟨w.out ++ v.out, w.err ++ v.err, v.raised⟩ := by
  rfl

theorem append_empty (unraised : w.raised = none) : w ++ empty = w := by
  rw [append_def, empty, String.append_empty, String.append_empty, ← unraised]

theorem append_print (text : String) : (w ++ v).print text = w ++ v.print text := by
  simp only [print, append_def, String.append_assoc]

theorem append_complain (text : String) : (w ++ v).complain text = w ++ v.complain text := by
  simp only [complain, append_def, String.append_assoc]

theorem append_showNotes (verbose : Bool) (notes : List Note) :
    (w ++ v).showNotes verbose notes = w ++ v.showNotes verbose notes := by
  rw [showNotes, showNotes]
  induction notes.filter (fun n => verbose || n.level = .warning) generalizing v with
  | nil => rfl
  | cons n notes ih =>
      rw [List.foldl_cons, List.foldl_cons, append_complain]
      exact ih (v.complain n.line)

theorem append_fault (verbose : Bool) (f : Fault) :
    (w ++ v).fault verbose f = w ++ v.fault verbose f := by
  rw [fault, fault]
  split
  · rw [append_complain, append_showNotes]
  · rfl

/-- Notes are written on standard error only. -/
@[simp]
theorem out_showNotes (verbose : Bool) (notes : List Note) :
    (v.showNotes verbose notes).out = v.out := by
  rw [showNotes]
  induction notes.filter (fun n => verbose || n.level = .warning) generalizing v with
  | nil => rfl
  | cons n notes ih => exact ih (v.complain n.line)

@[simp]
theorem raised_showNotes (verbose : Bool) (notes : List Note) :
    (v.showNotes verbose notes).raised = v.raised := by
  rw [showNotes]
  induction notes.filter (fun n => verbose || n.level = .warning) generalizing v with
  | nil => rfl
  | cons n notes ih => exact ih (v.complain n.line)

/-- So are faults that are reported. -/
@[simp]
theorem out_fault (verbose : Bool) (f : Fault) : (v.fault verbose f).out = v.out := by
  rw [fault]
  split
  · exact out_showNotes (v.complain f.message) verbose [.failed]
  · rfl

theorem raised_fault (verbose : Bool) (f : Fault) :
    (v.fault verbose f).raised = if f.kind.isReported then v.raised else some f := by
  rw [fault]
  split
  · exact raised_showNotes (v.complain f.message) verbose [.failed]
  · rfl

end Output

/-- A line adds to what was written before it, and does not depend on that. -/
theorem executeLine_append (o : Options) (c : Calculator) (w v : Output) (line : String) :
    executeLine o ⟨c, w ++ v⟩ line =
      ⟨(executeLine o ⟨c, v⟩ line).calculator, w ++ (executeLine o ⟨c, v⟩ line).output⟩ := by
  rw [executeLine, executeLine]
  dsimp only
  rw [Output.append_showNotes]
  split
  · rw [Output.append_fault]
  · rw [Output.append_showNotes]
    split
    · rw [Output.append_fault]
    · split
      · rw [Output.append_print]
      · rfl

/-- What each line writes, as long as none ends the run, and the calculator afterwards. -/
def transcript (o : Options) (c : Calculator) : List String → List Output × Calculator
  | [] => ([], c)
  | line :: lines =>
      let after := executeLine o ⟨c, .empty⟩ line
      if after.output.raised.isSome then ([after.output], after.calculator)
      else
        let rest := transcript o after.calculator lines
        (after.output :: rest.1, rest.2)

/-- Lines that have been carried out without ending the run. -/
def Unraised (written : List Output) : Prop := ∀ w ∈ written, w.raised = none

section Transcripts

variable {o : Options} {c : Calculator} {lines before after : List String} {line : String}

theorem transcript_cons (unraised : (executeLine o ⟨c, .empty⟩ line).output.raised = none) :
    transcript o c (line :: lines) =
      ((executeLine o ⟨c, .empty⟩ line).output ::
          (transcript o (executeLine o ⟨c, .empty⟩ line).calculator lines).1,
        (transcript o (executeLine o ⟨c, .empty⟩ line).calculator lines).2) := by
  rw [transcript]
  dsimp only
  rw [unraised]
  rfl

theorem unraised_of_transcript_cons (reached : Unraised (transcript o c (line :: lines)).1) :
    (executeLine o ⟨c, .empty⟩ line).output.raised = none := by
  refine reached _ ?_
  rw [transcript]
  dsimp only
  split
  · exact List.mem_singleton_self _
  · exact List.mem_cons_self

/-- The lines behind others are carried out with the calculator that those have left. -/
theorem transcript_append (reached : Unraised (transcript o c before).1) :
    transcript o c (before ++ after) =
      ((transcript o c before).1 ++ (transcript o (transcript o c before).2 after).1,
        (transcript o (transcript o c before).2 after).2) := by
  induction before generalizing c with
  | nil => rfl
  | cons line before ih =>
      have unraised := unraised_of_transcript_cons reached
      rw [transcript_cons unraised] at reached
      rw [List.cons_append, transcript_cons unraised, transcript_cons unraised,
        ih fun w member => reached w (List.mem_cons_of_mem _ member)]
      rfl

/-- A run writes what its lines write, in order. -/
theorem executeAll_eq {w : Output} (unraised : w.raised = none) :
    executeAll o ⟨c, w⟩ lines =
      ⟨(transcript o c lines).2, (transcript o c lines).1.foldl (· ++ ·) w⟩ := by
  induction lines generalizing c w with
  | nil => rfl
  | cons line lines ih =>
      have added := executeLine_append o c w .empty line
      rw [Output.append_empty w unraised] at added
      rw [executeAll, added, transcript]
      dsimp only
      by_cases raised : (executeLine o ⟨c, .empty⟩ line).output.raised.isSome = true
      · rw [Output.append_def, if_pos raised, if_pos raised]
        rfl
      · rw [Output.append_def, if_neg raised, if_neg raised]
        exact ih (by simpa using raised)

end Transcripts

/-! ## Where a line is refused -/

/-- The expression of a line. -/
def expressionOf (line : String) : String := String.ofList (splitStore line.toList).1

/-- The name of the register that a line stores into, if it stores. -/
def targetOf (line : String) : Option String := (splitStore line.toList).2.map String.ofList

/-- What a calculator remembers of a result: the last answer, and the value of a variable
solved for. -/
def Options.remember (o : Options) (c : Calculator) (value : Float) : Calculator :=
  match o.solveFor with
  | some name => c.keepRoot name value
  | none => c.set .answer value

section Lines

variable {o : Options} {c c' : Calculator} {w : Output} {line expression : String} {value : Float}

theorem eq_set_of_answering {computation : Calc Float}
    (answered : (c.answering computation).outcome = .ok (value, c')) :
    c' = c.set .answer value := by
  rw [Calculator.answering, Report.outcome_bind] at answered
  obtain ⟨x, -, kept⟩ := bind_eq_ok.1 answered
  cases kept
  rfl

theorem eq_remember_of_compute
    (computed : (compute o c expression).outcome = .ok (value, c')) :
    c' = o.remember c value := by
  rw [compute] at computed
  rw [Options.remember]
  cases named : o.solveFor with
  | some name =>
      rw [named] at computed
      simp only [Calculator.solve, Report.outcome_bind] at computed
      obtain ⟨equation, -, computed⟩ := bind_eq_ok.1 computed
      obtain ⟨root, -, kept⟩ := bind_eq_ok.1 computed
      cases kept
      rfl
  | none =>
      rw [named] at computed
      cases range : o.integrateOver with
      | some bounds =>
          rw [range] at computed
          exact eq_set_of_answering computed
      | none =>
          rw [range] at computed
          exact eq_set_of_answering computed

/-- Only a name that no register has is refused by a store. -/
theorem unknown_of_keep {target : Option String} {f : Fault}
    (refused : (keep c target value).outcome = .error f) :
    ∃ name, target = some name ∧ Register.ofName? name = none ∧ f = .unknownRegister name := by
  cases target with
  | none => cases refused
  | some name =>
      rw [keep, Calculator.store, Report.outcome_bind, bind_eq_error] at refused
      rcases refused with unnamed | ⟨register, -, stored⟩
      · refine ⟨name, rfl, ?_⟩
        rw [Report.ofExcept, Register.named] at unnamed
        split at unnamed
        · cases unnamed
        · rename_i unknown
          cases unnamed
          exact ⟨unknown, rfl⟩
      · cases stored

/-- A line that cannot be computed leaves the calculator as it was. -/
theorem executeLine_of_uncomputed {f : Fault}
    (failed : (compute o c (expressionOf line)).outcome = .error f) :
    executeLine o ⟨c, w⟩ line =
      ⟨c, (w.showNotes o.verbose (compute o c (expressionOf line)).notes).fault o.verbose f⟩ := by
  rw [expressionOf] at failed ⊢
  simp only [executeLine, failed]

/-- A line whose result cannot be stored leaves the calculator that has computed it. -/
theorem executeLine_of_unstored {f : Fault}
    (computed : (compute o c (expressionOf line)).outcome = .ok (value, c'))
    (failed : (keep c' (targetOf line) value).outcome = .error f) :
    executeLine o ⟨c, w⟩ line =
      ⟨c', ((w.showNotes o.verbose (compute o c (expressionOf line)).notes).showNotes o.verbose
        (keep c' (targetOf line) value).notes).fault o.verbose f⟩ := by
  rw [expressionOf] at computed ⊢
  rw [targetOf] at failed ⊢
  simp only [executeLine, computed, failed]

/-- A line whose result can be stored prints it or ends the run. -/
theorem executeLine_of_stored {stored : Calculator}
    (computed : (compute o c (expressionOf line)).outcome = .ok (value, c'))
    (kept : (keep c' (targetOf line) value).outcome = .ok stored) :
    (∃ text, (executeLine o ⟨c, .empty⟩ line).output.out = text ++ "\n") ∨
      (executeLine o ⟨c, .empty⟩ line).output.raised ≠ none := by
  rw [expressionOf] at computed
  rw [targetOf] at kept
  simp only [executeLine, computed, kept]
  split
  · rename_i text _
    exact .inl ⟨text, by simp [Output.print, Output.empty]⟩
  · exact .inr nofun

/-- A line that neither prints a result nor ends the run is refused, with a fault that is
reported: it cannot be computed, or its result cannot be stored. -/
theorem refused_of_silent (unraised : (executeLine o ⟨c, .empty⟩ line).output.raised = none)
    (silent : (executeLine o ⟨c, .empty⟩ line).output.out = "") :
    ∃ f, f.kind.isReported = true ∧
      ((compute o c (expressionOf line)).outcome = .error f ∨
        ∃ value c', (compute o c (expressionOf line)).outcome = .ok (value, c') ∧
          (keep c' (targetOf line) value).outcome = .error f) := by
  cases computed : (compute o c (expressionOf line)).outcome with
  | error f =>
      rw [executeLine_of_uncomputed computed, Output.raised_fault] at unraised
      by_cases reported : f.kind.isReported = true
      · exact ⟨f, reported, .inl rfl⟩
      · rw [if_neg reported] at unraised
        cases unraised
  | ok result =>
      obtain ⟨value, c'⟩ := result
      cases kept : (keep c' (targetOf line) value).outcome with
      | error f =>
          obtain ⟨name, -, -, rfl⟩ := unknown_of_keep kept
          exact ⟨_, rfl, .inr ⟨value, c', rfl, kept⟩⟩
      | ok stored =>
          rcases executeLine_of_stored computed kept with ⟨text, printed⟩ | raised
          · rw [printed] at silent
            have long := congrArg String.length silent
            rw [String.length_append] at long
            exact absurd long (by simp)
          · exact absurd unraised raised

end Lines

/-! ## A line more or less -/

section Refused

variable {o : Options} {c : Calculator} {before after : List String} {line : String}

/-- A line that writes without ending the run comes between the others, and those behind it go
on from the calculator it leaves. -/
theorem transcript_between {own : Output} {left : Calculator}
    (reached : Unraised (transcript o c before).1)
    (carried : executeLine o ⟨(transcript o c before).2, .empty⟩ line = ⟨left, own⟩)
    (unraised : own.raised = none) :
    transcript o c (before ++ line :: after) =
      ((transcript o c before).1 ++ own :: (transcript o left after).1,
        (transcript o left after).2) := by
  have next : (executeLine o ⟨(transcript o c before).2, .empty⟩ line).output.raised = none := by
    rw [carried]
    exact unraised
  rw [transcript_append reached, transcript_cons next, carried]

end Refused

/-- **A line that cannot be computed leaves no trace; one that cannot be stored leaves its
result.**  A run writes what its lines write, in order, and a line that is reported instead of
printed is refused in one of the two places.  Refused in the first, it can be taken out of any
sequence of lines that reaches it, and the others write the same.  Refused in the second, it
makes the lines behind it go on from the calculator that remembers its result. -/
theorem refused_line (o : Options) :
    (∀ input, o.task = .execute → perform o input =
      (transcript o (.new o.unit (!o.lenient)) (linesOf o input)).1.foldl (· ++ ·) .empty) ∧
    (∀ c line, (executeLine o ⟨c, .empty⟩ line).output.raised = none →
      (executeLine o ⟨c, .empty⟩ line).output.out = "" →
        ∃ f, f.kind.isReported = true ∧
          ((compute o c (expressionOf line)).outcome = .error f ∨
            ∃ value c', (compute o c (expressionOf line)).outcome = .ok (value, c') ∧
              (keep c' (targetOf line) value).outcome = .error f)) ∧
    ∀ c before line after, Unraised (transcript o c before).1 →
      (∀ f, (compute o (transcript o c before).2 (expressionOf line)).outcome = .error f →
        f.kind.isReported = true → ∃ own rest last, own.out = "" ∧ own.raised = none ∧
          transcript o c (before ++ line :: after) =
            ((transcript o c before).1 ++ own :: rest, last) ∧
          transcript o c (before ++ after) = ((transcript o c before).1 ++ rest, last)) ∧
      ∀ value c' f,
        (compute o (transcript o c before).2 (expressionOf line)).outcome = .ok (value, c') →
        (keep c' (targetOf line) value).outcome = .error f →
          c' = o.remember (transcript o c before).2 value ∧
          ∃ own, own.out = "" ∧ own.raised = none ∧
            transcript o c (before ++ line :: after) =
              ((transcript o c before).1 ++ own :: (transcript o c' after).1,
                (transcript o c' after).2) := by
  refine ⟨fun input execute => ?_, fun c line => refused_of_silent,
    fun c before line after reached => ⟨fun f failed reported => ?_,
      fun value c' f computed failed => ⟨eq_remember_of_compute computed, ?_⟩⟩⟩
  · rw [perform, execute]
    exact congrArg Session.output (executeAll_eq rfl)
  · have carried := executeLine_of_uncomputed (w := .empty) failed
    refine ⟨_, _, _, ?_, ?_, transcript_between reached carried ?_, transcript_append reached⟩
    · simp [Output.empty]
    · simp [Output.raised_fault, reported, Output.empty]
    · simp [Output.raised_fault, reported, Output.empty]
  · obtain ⟨name, -, -, rfl⟩ := unknown_of_keep failed
    have carried := executeLine_of_unstored (w := .empty) computed failed
    refine ⟨_, ?_, ?_, transcript_between reached carried ?_⟩
    · simp [Output.empty]
    · simp [Output.raised_fault, Fault.kind, Kind.isReported, Output.empty]
    · simp [Output.raised_fault, Fault.kind, Kind.isReported, Output.empty]

/-- Without its line for an unknown register, this run would print zero: the line's result has
become the last answer. -/
theorem refused_store_remembered :
    (transcript {} (.new .degrees true) ["1+1 -> Q", "Ans"]).1 =
        [⟨"", "Invalid memory register: Q\n", none⟩, ⟨"2.0\n", "", none⟩] ∧
      (transcript {} (.new .degrees true) ["Ans"]).1 = [⟨"0.0\n", "", none⟩] := by
  decide +kernel

/-- A root that does not exist, between two lines that can be computed. -/
theorem refused_line_root :
    let c : Calculator := .new .degrees true
    Unraised (transcript {} c ["2+1"]).1 ∧
      (compute {} (transcript {} c ["2+1"]).2 (expressionOf "sqrt(-1) -> A")).outcome =
        .error (.outsideDomain "sqrt" [-1.0]) ∧
      ∃ own rest last, own.out = "" ∧ own.raised = none ∧
        transcript {} c ["2+1", "sqrt(-1) -> A", "Ans"] =
          ((transcript {} c ["2+1"]).1 ++ own :: rest, last) ∧
        transcript {} c ["2+1", "Ans"] = ((transcript {} c ["2+1"]).1 ++ rest, last) := by
  intro c
  have reached : Unraised (transcript {} c ["2+1"]).1 := by
    unfold Unraised
    decide +kernel
  have failed : (compute {} (transcript {} c ["2+1"]).2 (expressionOf "sqrt(-1) -> A")).outcome =
      .error (.outsideDomain "sqrt" [-1.0]) := by
    decide +kernel
  exact ⟨reached, failed,
    ((refused_line {}).2.2 c ["2+1"] "sqrt(-1) -> A" ["Ans"] reached).1 _ failed rfl⟩

end SciCalc.CommandLine
