/-
# SciCalc.Proofs.Evaluation.ShapeFault -- which faults the shape of the tokens decides

Postfix tokens that all mean something (`Token.needs?`) can fail in three ways on a stack.

* A token finds too few operands.  Where, and how many there are, is known beforehand: it is
  the first shortage that `depthAfter` counts.
* Too many values are left at the end, and again the count tells how many.
* A token has its operands and still no value: a variable is not defined, or a rule refuses
  its operands (`Fault.ofValue`).  This alone depends on the context, and it hides what would
  have come later (`Spoiled`).

A run goes wrong at one token, all before it having come through (`exists_failing`), and
there the first and the third way exclude each other by the depth of the stack
(`fault_of_step`).
-/
import SciCalc.Proofs.Evaluation.EvaluationFault
import SciCalc.Proofs.Evaluation.StackDepth
import SciCalc.Proofs.Evaluation.TreeValue

namespace SciCalc

set_option autoImplicit false

open SciCalc.Syntax (Token Operation Fn Shortage depthAfter)

/-- The faults of a token that has its operands and no value. -/
def Fault.ofValue : Fault → Bool
  | undefinedVariable _ => true
  | fault => fault.ofRule

theorem Fault.ofValue_of_ofRule {fault : Fault} (rule : fault.ofRule = true) :
    fault.ofValue = true := by
  cases fault <;> first | rfl | exact rule

theorem Fault.not_ofStack_of_ofValue {fault : Fault} (value : fault.ofValue = true) :
    fault.ofStack = false := by
  cases fault <;> first | rfl | cases value

/-! ## The count -/

namespace Syntax

variable {ts : List Token} {t : Token}

theorem depthAfter_append (depth : Nat) (ts us : List Token) :
    depthAfter depth (ts ++ us) = depthAfter depth ts >>= fun after => depthAfter after us := by
  induction ts generalizing depth with
  | nil => rfl
  | cons t ts ih =>
      simp only [List.cons_append, depthAfter]
      split
      · rfl
      · exact ih _

/-- A token that finds too few values after others that do not is the shortage. -/
theorem depthAfter_short {start depth needed : Nat} (counted : depthAfter start ts = .ok depth)
    (needs : t.needs? = some needed) (short : depth < needed) (behind : List Token) :
    depthAfter start (ts ++ t :: behind) = .error ⟨t, needed, depth⟩ := by
  rw [depthAfter_append, counted]
  simp only [bind, Except.bind, depthAfter, needs, Option.getD_some, if_pos short]

/-- A shortage is at a token, the first that finds too few values. -/
theorem exists_short {start : Nat} {shortage : Shortage}
    (counted : depthAfter start ts = .error shortage) :
    ∃ front behind, ts = front ++ shortage.token :: behind ∧
      depthAfter start front = .ok shortage.depth ∧
      shortage.token.needs?.getD 0 = shortage.needed ∧ shortage.depth < shortage.needed := by
  induction ts generalizing start with
  | nil => cases counted
  | cons t ts ih =>
      rw [depthAfter] at counted
      split at counted
      · cases counted
        exact ⟨[], ts, rfl, rfl, rfl, ‹_›⟩
      · obtain ⟨front, behind, rfl, reached, needs, short⟩ := ih counted
        refine ⟨t :: front, behind, rfl, ?_, needs, short⟩
        rw [depthAfter, if_neg ‹_›]
        exact reached

end Syntax

/-! ## A token -/

namespace Machine

variable {c : Context} {stack : List Float} {t : Token} {ts front behind : List Token}
  {halt : Halt} {fault : Fault}

/-- What takes its operands from the stack fails for want of them, or by its rule. -/
theorem fault_of_applied {needed : Nat} {consumer : String} (rule : List Float → Except Fault Float)
    (ruled : ∀ operands fault, rule operands = .error fault → fault.ofRule = true)
    (failed : (do
      let (operands, below) ← pop stack needed consumer
      push (rule operands) below) = .error halt) :
    stack.length < needed ∧ halt.fault = .missingOperands consumer needed stack.length ∨
      needed ≤ stack.length ∧ halt.fault.ofValue = true := by
  rcases bind_eq_error.1 failed with short | ⟨⟨operands, below⟩, popped, applied⟩
  · rw [pop] at short
    split at short
    · cases short
      exact .inl ⟨‹_›, rfl⟩
    · cases short
  · have rule := ruled operands halt.fault (error_of_push applied)
    exact .inr ⟨(pop_eq_ok popped).1, Fault.ofValue_of_ofRule rule⟩

/-- A token that means something fails for want of operands exactly where the stack is not
deep enough; where it is, the token has no value. -/
theorem fault_of_step {needed : Nat} (needs : t.needs? = some needed)
    (failed : step c stack t = .error halt) :
    stack.length < needed ∧ halt.fault = .missingOperands t.text needed stack.length ∨
      needed ≤ stack.length ∧ halt.fault.ofValue = true := by
  cases t with
  | number x => cases failed
  | var name =>
      cases needs
      rw [step] at failed
      have undefined := error_of_push failed
      rw [Context.lookup] at undefined
      split at undefined
      · cases undefined
      · refine .inr ⟨Nat.zero_le _, ?_⟩
        rw [← Except.error.inj undefined]
        rfl
  | constant name =>
      cases entry : Syntax.constant? name with
      | none => simp [Token.needs?, entry] at needs
      | some x => simp [step, entry] at failed
  | operator symbol unary =>
      rw [step] at failed
      cases entry : Token.operationOf? symbol unary with
      | none => simp [Token.needs?, entry] at needs
      | some operation =>
          simp only [Token.needs?, entry, Option.map_some, Option.some.injEq] at needs
          simp only [entry, needs] at failed
          exact fault_of_applied (applyOperation symbol operation)
            (fun _ _ => ofRule_of_applyOperation) failed
  | function name =>
      rw [step] at failed
      cases entry : Fn.ofName? name with
      | none => simp [Token.needs?, entry] at needs
      | some f =>
          simp only [Token.needs?, entry, Option.map_some, Option.some.injEq] at needs
          simp only [entry, needs] at failed
          exact fault_of_applied (applyFunction c.unit name f)
            (fun _ _ => ofRule_of_applyFunction) failed
  | lparen | rparen | comma => cases needs

/-! ## A run -/

theorem effect_eq_foldlM (c : Context) (ts : List Token) (stack : List Float) :
    effect c ts stack = ts.foldlM (fun stack t => effect c [t] stack) stack := by
  simp only [effect_singleton]
  exact mapError_foldlM Halt.fault (step c) ts stack

/-- A run that fails goes wrong at one token, and all before it have come through. -/
theorem exists_failing (failed : effect c ts stack = .error fault) :
    ∃ front t behind between, ts = front ++ t :: behind ∧ effect c front stack = .ok between ∧
      effect c [t] between = .error fault := by
  rw [effect_eq_foldlM] at failed
  obtain ⟨front, t, behind, between, split, passed, fails⟩ := exists_failing_of_foldlM failed
  exact ⟨front, t, behind, between, split, (effect_eq_foldlM c front stack).trans passed, fails⟩

/-- Tokens that come through leave a stack as deep as they are counted. -/
theorem depthAfter_of_effect {after : List Float} (ran : effect c ts stack = .ok after) :
    depthAfter stack.length ts = .ok after.length := by
  rw [effect] at ran
  cases folded : ts.foldlM (step c) stack with
  | error halt =>
      rw [folded] at ran
      cases ran
  | ok last =>
      rw [folded] at ran
      cases ran
      exact depthAfter_of_foldlM folded

/-- One of the tokens, those before it having come through, has its operands but no value, and
the fault says so. -/
def Spoiled (c : Context) (ts : List Token) (fault : Fault) : Prop :=
  ∃ front t behind stack, ts = front ++ t :: behind ∧ effect c front [] = .ok stack ∧
    effect c [t] stack = .error fault ∧ fault.ofValue = true

theorem Spoiled.ofValue (spoiled : Spoiled c ts fault) : fault.ofValue = true := by
  obtain ⟨_, _, _, _, _, _, _, value⟩ := spoiled
  exact value

/-- Where the count finds no shortage, a run comes through with as many values, or is
spoiled. -/
theorem comes_or_spoiled {depth : Nat} (meant : ∀ t ∈ ts, t.needs?.isSome = true)
    (counted : depthAfter 0 ts = .ok depth) :
    (∃ after, effect c ts [] = .ok after ∧ after.length = depth) ∨
      ∃ fault, effect c ts [] = .error fault ∧ Spoiled c ts fault := by
  cases ran : effect c ts [] with
  | ok after =>
      have deep := depthAfter_of_effect ran
      rw [List.length_nil, counted, Except.ok.injEq] at deep
      exact .inl ⟨after, rfl, deep.symm⟩
  | error fault =>
      obtain ⟨front, t, behind, between, rfl, passed, fails⟩ := exists_failing ran
      obtain ⟨needed, needs⟩ :=
        Option.isSome_iff_exists.1 (meant t (List.mem_append_right _ List.mem_cons_self))
      obtain ⟨halt, stepped, rfl⟩ :=
        (mapError_eq_error _).1 ((effect_singleton c t between).symm.trans fails)
      rcases fault_of_step needs stepped with ⟨short, -⟩ | ⟨-, value⟩
      · have shortage :=
          Syntax.depthAfter_short (depthAfter_of_effect passed) needs short behind
        rw [List.length_nil, counted] at shortage
        cases shortage
      · exact .inr ⟨_, rfl, front, t, behind, between, rfl, passed, fails, value⟩

/-- Tokens that come through and leave another number of values than one. -/
theorem run_of_effect_many {m : Machine} {after : List Float}
    (ran : effect m.context ts [] = .ok after)
    (many : after.length ≠ 1) : (m.run ts).1 = .error (.leftOver after.length) := by
  rw [effect] at ran
  rw [run]
  cases folded : ts.foldlM (step m.context) [] with
  | error halt =>
      rw [folded] at ran
      cases ran
  | ok last =>
      rw [folded] at ran
      cases ran
      rcases after with _ | ⟨x, _ | ⟨y, more⟩⟩
      · rfl
      · exact absurd rfl many
      · rfl

/-- A shortage is met with the depth that was counted, by a run that comes so far. -/
theorem run_of_short {m : Machine} {needed : Nat} {between : List Float}
    (passed : effect m.context front [] = .ok between) (needs : t.needs? = some needed)
    (short : between.length < needed) :
    (m.run (front ++ t :: behind)).1 =
      .error (.missingOperands t.text needed between.length) := by
  apply run_of_effect_error
  have fails : effect m.context [t] between =
      .error (.missingOperands t.text needed between.length) := by
    rw [effect_singleton]
    cases stepped : step m.context between t with
    | ok after =>
        obtain ⟨own, same, enough, -⟩ := depth_of_step stepped
        rw [needs] at same
        cases same
        exact absurd short (Nat.not_lt.2 enough)
    | error halt =>
        rcases fault_of_step needs stepped with ⟨-, missing⟩ | ⟨enough, -⟩
        · rw [mapError_error, missing]
        · exact absurd short (Nat.not_lt.2 enough)
  rw [effect_append, passed]
  show effect m.context (t :: behind) between = _
  rw [effect_cons, fails]
  rfl

/-- **The shape of the tokens decides which faults of the stack there are**, in every context:
none where the count ends at one; a shortage where it is counted, told with the need of the
token and the depth that was counted; and otherwise as many values left over as are counted.
Only a token without a value can come before that. -/
theorem run_shape (m : Machine) (ts : List Token) (meant : ∀ t ∈ ts, t.needs?.isSome = true) :
    (depthAfter 0 ts = .ok 1 →
      (∀ consumer needed found,
        (m.run ts).1 ≠ .error (.missingOperands consumer needed found)) ∧
      (∀ items, (m.run ts).1 ≠ .error (.leftOver items)) ∧
      ((∃ x, (m.run ts).1 = .ok x) ∨
        ∃ fault, (m.run ts).1 = .error fault ∧ Spoiled m.context ts fault)) ∧
    (∀ shortage, depthAfter 0 ts = .error shortage →
      ∃ front behind, ts = front ++ shortage.token :: behind ∧
        depthAfter 0 front = .ok shortage.depth ∧
        shortage.token.needs? = some shortage.needed ∧ shortage.depth < shortage.needed ∧
        ((∃ stack, effect m.context front [] = .ok stack ∧ stack.length = shortage.depth ∧
            (m.run ts).1 = .error
              (.missingOperands shortage.token.text shortage.needed shortage.depth)) ∨
          ∃ fault, (m.run ts).1 = .error fault ∧ Spoiled m.context front fault)) ∧
    (∀ depth, depthAfter 0 ts = .ok depth → depth ≠ 1 →
      (m.run ts).1 = .error (.leftOver depth) ∨
        ∃ fault, (m.run ts).1 = .error fault ∧ Spoiled m.context ts fault) := by
  refine ⟨fun counted => ?_, fun shortage counted => ?_, fun depth counted several => ?_⟩
  · rcases comes_or_spoiled meant counted with ⟨after, ran, single⟩ | ⟨fault, ran, spoiled⟩
    · obtain ⟨x, rfl⟩ := List.length_eq_one_iff.1 single
      rw [run_of_effect_ok ran]
      exact ⟨fun _ _ _ same => (nomatch same), fun _ same => (nomatch same), .inl ⟨x, rfl⟩⟩
    · have noStack := Fault.not_ofStack_of_ofValue spoiled.ofValue
      rw [run_of_effect_error ran]
      refine ⟨fun _ _ _ same => ?_, fun _ same => ?_, .inr ⟨fault, rfl, spoiled⟩⟩
      · cases same
        cases noStack
      · cases same
        cases noStack
  · obtain ⟨front, behind, rfl, reached, needed, short⟩ := Syntax.exists_short counted
    obtain ⟨own, needs⟩ :=
      Option.isSome_iff_exists.1 (meant _ (List.mem_append_right _ List.mem_cons_self))
    obtain rfl : own = shortage.needed := by rwa [needs] at needed
    refine ⟨front, behind, rfl, reached, needs, short, ?_⟩
    rcases comes_or_spoiled (fun t inside => meant t (List.mem_append_left _ inside)) reached with
      ⟨between, ran, deep⟩ | ⟨fault, ran, spoiled⟩
    · rw [← deep] at short ⊢
      exact .inl ⟨between, ran, rfl, run_of_short ran needs short⟩
    · have whole : effect m.context (front ++ shortage.token :: behind) [] = .error fault := by
        rw [effect_append, ran]
        rfl
      exact .inr ⟨fault, run_of_effect_error whole, spoiled⟩
  · rcases comes_or_spoiled meant counted with ⟨after, ran, rfl⟩ | ⟨fault, ran, spoiled⟩
    · exact .inl (run_of_effect_many ran several)
    · exact .inr ⟨fault, run_of_effect_error ran, spoiled⟩

/-- A function of two arguments finds one of them: that it is short of the other is told where
the value of `A` is known, and where it is not, `A` is what the run fails for. -/
theorem run_shape_short :
    let ts : List Token := [.var "A", .function "nCr", .number 2.0]
    let known : Machine := .new (.new .degrees (.ofList [("A", some 3.0)]))
    let unknown : Machine := .new (.new .degrees .empty)
    (∀ t ∈ ts, t.needs?.isSome = true) ∧
      depthAfter 0 ts = .error ⟨.function "nCr", 2, 1⟩ ∧
      (known.run ts).1 = .error (.missingOperands "nCr" 2 1) ∧
      (unknown.run ts).1 = .error (.undefinedVariable "A") ∧
      ∃ front behind, ts = front ++ .function "nCr" :: behind ∧
        Spoiled unknown.context front (.undefinedVariable "A") := by
  intro ts known unknown
  have meant : ∀ t ∈ ts, t.needs?.isSome = true := by decide +kernel
  have counted : depthAfter 0 ts = .error ⟨.function "nCr", 2, 1⟩ := rfl
  have short : (known.run ts).1 = .error (.missingOperands "nCr" 2 1) := rfl
  have undefined : (unknown.run ts).1 = .error (.undefinedVariable "A") := rfl
  refine ⟨meant, counted, short, undefined, ?_⟩
  obtain ⟨front, behind, split, -, -, -, ended⟩ := (run_shape unknown ts meant).2.1 _ counted
  rcases ended with ⟨-, -, -, missing⟩ | ⟨fault, failed, spoiled⟩
  · rw [undefined] at missing
    cases missing
  · rw [undefined] at failed
    cases failed
    exact ⟨front, behind, split, spoiled⟩

end Machine

end SciCalc
