/-
# SciCalc.Proofs.Evaluation.TreeValue -- the stack computes the value of the tree

Running the postfix order of a tree on a machine has the outcome of evaluating the tree
from its leaves up (`run_ordered`): the same value, or the first fault from left to
right.  It holds for every tree in which what is known has as many operands as it takes
(`Expr.Saturated`), grammatical or not, and whatever was on the stack before.

The statement that is proved by induction speaks of a stack below and of tokens that
follow: the postfix order of a tree pushes its value on any stack, or fails as the tree
does (`effect_ordered`).  What a failed run leaves on the stack plays no part in it, so
the machine's fold is taken without that (`effect`), and then two stretches of tokens
compose by `bind`, as the operands of a tree do.

Trees of the grammar are among these (`Expr.saturated_of_fits`), and their texts are read and
put into postfix order as the trees say.  So evaluating a text of such a tree is evaluating
the tree (`outcome_evaluate_written`).
-/
import SciCalc.Evaluation.Tree
import SciCalc.Proofs.Evaluation.EvaluationFault
import SciCalc.Proofs.Syntax.Postfix
import SciCalc.Proofs.Syntax.WrittenText

namespace SciCalc

set_option autoImplicit false

open SciCalc.Syntax (Token Operation Fn Expr)

/-! ## Application -/

namespace Syntax.Expr

theorem applied_eq_blame (name : String) (operands : List Float) (outcome : Except Fault Float) :
    applied name operands outcome = Machine.blame name operands outcome := by
  cases outcome with
  | ok y => rfl
  | error fault => cases fault <;> rfl

/-- Half a turn is what the machine's factors have it be. -/
theorem toRadian_eq_toRadians (unit : AngleUnit) (angle : Float) :
    toRadian unit angle = unit.toRadians angle := by
  cases unit <;> rfl

theorem ofRadian_eq_fromRadians (unit : AngleUnit) (radians : Float) :
    ofRadian unit radians = unit.fromRadians radians := by
  cases unit <;> rfl

theorem applyFn_eq_applyFunction (unit : AngleUnit) (name : String) (arguments : List Float)
    (f : Fn) : applyFn unit name arguments f = Machine.applyFunction unit name f arguments := by
  have given : toRadian unit = unit.toRadians := funext (toRadian_eq_toRadians unit)
  have found : ofRadian unit = unit.fromRadians := funext (ofRadian_eq_fromRadians unit)
  have converted (outcome : Except Fault Float) :
      (do let radians ← outcome; return unit.fromRadians radians) =
        outcome.map unit.fromRadians := by
    cases outcome <;> rfl
  cases f <;> simp only [applyFn, applied_eq_blame, given, found, converted] <;> rfl

/-- A tree in which every operator and function that is known has as many operands as it
takes. -/
def Saturated : Expr → Prop
  | number _ | constant _ | var _ => True
  | group inner => inner.Saturated
  | call name argument => (∀ f, Fn.ofName? name = some f → f.arity = 1) ∧ argument.Saturated
  | callPair name first second =>
      (∀ f, Fn.ofName? name = some f → f.arity = 2) ∧ first.Saturated ∧ second.Saturated
  | factorial operand | negate operand => operand.Saturated
  | binary symbol left right =>
      (∀ o, Operation.ofSymbol? symbol = some o → o.arity = 2) ∧ left.Saturated ∧ right.Saturated

/-- A symbol between operands takes both. -/
theorem arity_eq_two {symbol : String} {level : Syntax.Level}
    (written : Syntax.symbolLevel? symbol = some level) :
    ∀ o, Operation.ofSymbol? symbol = some o → o.arity = 2 := by
  intro o known
  rw [Operation.symbolLevel?_eq, known] at written
  have atLevel : o.level? = some level := written
  cases o <;> first | rfl | cases atLevel

theorem saturated_of_fits {level : Syntax.Level} {e : Expr} (fits : Fits level e) :
    e.Saturated := by
  induction fits with
  | sum written _ _ left right | product written _ _ left right | power written _ _ left right =>
      exact ⟨arity_eq_two written, left, right⟩
  | ofProduct _ ih | ofPower _ ih | ofPrimary _ ih | negate _ ih | factorial _ ih | group _ ih =>
      exact ih
  | number | constant | var => trivial
  | call known takesOne _ ih =>
      exact ⟨fun f named => by cases known.symm.trans named; exact takesOne, ih⟩
  | callPair known takesTwo _ _ first second =>
      exact ⟨fun f named => by cases known.symm.trans named; exact takesTwo, first, second⟩

end Syntax.Expr

/-! ## The machine without what it leaves on failing -/

namespace Machine

/-- The stack after postfix tokens, or the fault of the one that fails. -/
def effect (c : Context) (ts : List Token) (stack : List Float) : Except Fault (List Float) :=
  (ts.foldlM (step c) stack).mapError Halt.fault

theorem effect_append (c : Context) (ts us : List Token) (stack : List Float) :
    effect c (ts ++ us) stack = effect c ts stack >>= effect c us := by
  rw [effect, List.foldlM_append, effect]
  cases ts.foldlM (step c) stack <;> rfl

theorem effect_cons (c : Context) (t : Token) (ts : List Token) (stack : List Float) :
    effect c (t :: ts) stack = effect c [t] stack >>= effect c ts :=
  effect_append c [t] ts stack

theorem effect_singleton (c : Context) (t : Token) (stack : List Float) :
    effect c [t] stack = (step c stack t).mapError Halt.fault := by
  rw [effect, List.foldlM_cons]
  cases step c stack t <;> rfl

theorem effect_number (c : Context) (x : Float) (stack : List Float) :
    effect c [.number x] stack = .ok (x :: stack) := rfl

/-- Operands that were pushed in source order are popped in source order. -/
theorem pop_operands (operands stack : List Float) (consumer : String) :
    pop (operands.reverse ++ stack) operands.length consumer = .ok (operands, stack) := by
  have enough : ¬ (operands.reverse ++ stack).length < operands.length := by simp
  have taken : (operands.reverse ++ stack).take operands.length = operands.reverse := by
    rw [List.take_append_of_le_length (by simp), List.take_of_length_le (by simp)]
  have below : (operands.reverse ++ stack).drop operands.length = stack := by
    rw [List.drop_append_of_le_length (by simp), List.drop_of_length_le (by simp),
      List.nil_append]
  rw [pop, if_neg enough, taken, below, List.reverse_reverse]

theorem mapError_push (outcome : Except Fault Float) (stack : List Float) :
    (push outcome stack).mapError Halt.fault = outcome.map (· :: stack) := by
  cases outcome <;> rfl

/-- An operator on as many operands as it takes. -/
theorem effect_operator (c : Context) (symbol : String) (unary : Bool)
    (operands stack : List Float)
    (arity : ∀ o, Token.operationOf? symbol unary = some o → o.arity = operands.length) :
    effect c [.operator symbol unary] (operands.reverse ++ stack) =
      (Expr.applySymbol symbol unary operands).map (· :: stack) := by
  rw [Expr.applySymbol, effect_singleton, step]
  cases known : Token.operationOf? symbol unary with
  | none => rfl
  | some o =>
      simp only [arity o known, pop_operands, Expr.applied_eq_blame]
      exact mapError_push (applyOperation symbol o operands) stack

/-- A function on as many arguments as it takes. -/
theorem effect_function (c : Context) (name : String) (arguments stack : List Float)
    (arity : ∀ f, Fn.ofName? name = some f → f.arity = arguments.length) :
    effect c [.function name] (arguments.reverse ++ stack) =
      (Expr.applyName c.unit name arguments).map (· :: stack) := by
  rw [Expr.applyName, effect_singleton, step]
  cases known : Fn.ofName? name with
  | none => rfl
  | some f =>
      simp only [arity f known, pop_operands, Expr.applyFn_eq_applyFunction]
      exact mapError_push (applyFunction c.unit name f arguments) stack

/-- **The postfix order of a tree pushes its value on any stack**, or fails as the tree
does. -/
theorem effect_ordered (c : Context) {e : Expr} (saturated : e.Saturated) (stack : List Float) :
    effect c e.ordered stack = (e.value c).map (· :: stack) := by
  induction e generalizing stack with
  | number x => rfl
  | constant name =>
      rw [Expr.value, Expr.ordered, effect_singleton, step]
      cases Syntax.constant? name <;> rfl
  | var name =>
      rw [Expr.value, Expr.ordered, effect_singleton, step]
      exact mapError_push (c.lookup name) stack
  | group inner ih => exact ih saturated stack
  | call name argument ih =>
      obtain ⟨arity, whole⟩ := saturated
      rw [Expr.ordered, Expr.value, effect_append, ih whole]
      cases argument.value c with
      | error fault => rfl
      | ok x => exact effect_function c name [x] stack arity
  | callPair name first second firstIh secondIh =>
      obtain ⟨arity, firstWhole, secondWhole⟩ := saturated
      rw [Expr.ordered, Expr.value, effect_append, effect_append, firstIh firstWhole]
      cases first.value c with
      | error fault => rfl
      | ok x =>
          simp only [Except.map, bind, Except.bind, secondIh secondWhole]
          cases second.value c with
          | error fault => rfl
          | ok y => exact effect_function c name [x, y] stack arity
  | factorial operand ih =>
      rw [Expr.ordered, Expr.value, effect_append, ih saturated]
      cases operand.value c with
      | error fault => rfl
      | ok x =>
          exact effect_operator c Syntax.factorialSymbol false [x] stack fun o known => by
            cases known
            rfl
  | negate operand ih =>
      rw [Expr.ordered, Expr.value, List.cons_append, effect_cons, effect_number]
      simp only [bind, Except.bind]
      rw [effect_append, ih saturated]
      cases operand.value c with
      | error fault => rfl
      | ok x =>
          exact effect_operator c "×" true [-1.0, x] stack fun o known => by
            cases known
            rfl
  | binary symbol left right leftIh rightIh =>
      obtain ⟨arity, leftWhole, rightWhole⟩ := saturated
      rw [Expr.ordered, Expr.value, effect_append, effect_append, leftIh leftWhole]
      cases left.value c with
      | error fault => rfl
      | ok x =>
          simp only [Except.map, bind, Except.bind, rightIh rightWhole]
          cases right.value c with
          | error fault => rfl
          | ok y => exact effect_operator c symbol false [x, y] stack arity

/-! ## Whole runs -/

/-- A run that ends with one value on the stack. -/
theorem run_of_effect_ok {m : Machine} {ts : List Token} {x : Float}
    (success : effect m.context ts [] = .ok [x]) : m.run ts = (.ok x, { m with stack := [] }) := by
  rw [effect] at success
  rw [run]
  cases ended : ts.foldlM (step m.context) [] with
  | error halt =>
      rw [ended] at success
      cases success
  | ok stack =>
      rw [ended] at success
      cases success
      rfl

/-- A run that is cut short fails with the fault that cut it short. -/
theorem run_of_effect_error {m : Machine} {ts : List Token} {fault : Fault}
    (failure : effect m.context ts [] = .error fault) : (m.run ts).1 = .error fault := by
  rw [effect] at failure
  rw [run]
  cases ended : ts.foldlM (step m.context) [] with
  | error halt =>
      rw [ended] at failure
      cases failure
      rfl
  | ok stack =>
      rw [ended] at failure
      cases failure

/-- A run of the postfix order of a tree has the outcome of the tree. -/
theorem outcome_run_ordered (m : Machine) {e : Expr} (saturated : e.Saturated) :
    (m.run e.ordered).1 = e.value m.context := by
  have pushed := effect_ordered m.context saturated []
  cases result : e.value m.context with
  | ok x => rw [run_of_effect_ok (by rw [pushed, result]; rfl)]
  | error fault => exact run_of_effect_error (by rw [pushed, result]; rfl)

end Machine

/-- **A text of an expression has the value of its tree**, whatever white space and plus signs
it has. -/
theorem outcome_evaluate_written (c : Context) (strict : Bool) {e : Expr}
    (fits : Expr.Fits .sum e) {w : Syntax.Written} (leaves : w.tokens = e.tokens)
    {plain : List Char} {text : String} (written : Syntax.WrittenSigned w plain)
    (spaced : Syntax.Spaced plain text.toList) :
    (evaluate c strict text).outcome = e.value c := by
  obtain ⟨ls, splits, tokens⟩ := written.splits spaced
  obtain ⟨y, run, ended⟩ := Syntax.Yard.ends_of_fits fits
  have read : (Syntax.tokenize strict text).outcome = .ok e.tokens := by
    rw [Syntax.tokenize_of_splits splits, tokens, leaves]
  have ordered : Syntax.toPostfix e.tokens = .ok e.ordered := by
    rw [Syntax.toPostfix, run]
    exact ended
  rw [outcome_evaluate, Syntax.outcome_parse, read]
  show Syntax.toPostfix e.tokens >>= evaluatePostfix c = _
  rw [ordered]
  exact Machine.outcome_run_ordered (Machine.new c) (Expr.saturated_of_fits fits)

/-! ## The faults of a tree -/

/-- The faults that speak of how many values there are on a stack. -/
def Fault.ofStack : Fault → Bool
  | missingOperands .. | leftOver _ => true
  | _ => false

theorem Fault.not_ofStack_of_ofRule {fault : Fault} (rule : fault.ofRule = true) :
    fault.ofStack = false := by
  cases fault <;> first | rfl | cases rule

namespace Syntax.Expr

theorem not_ofStack_of_applySymbol {symbol : String} {unary : Bool} {operands : List Float}
    {fault : Fault} (failed : applySymbol symbol unary operands = .error fault) :
    fault.ofStack = false := by
  rw [applySymbol] at failed
  split at failed
  · rw [applied_eq_blame] at failed
    exact Fault.not_ofStack_of_ofRule (Machine.ofRule_of_applyOperation failed)
  · cases failed
    rfl

theorem not_ofStack_of_applyName {unit : AngleUnit} {name : String} {arguments : List Float}
    {fault : Fault} (failed : applyName unit name arguments = .error fault) :
    fault.ofStack = false := by
  rw [applyName] at failed
  split at failed
  · rw [applyFn_eq_applyFunction] at failed
    exact Fault.not_ofStack_of_ofRule (Machine.ofRule_of_applyFunction failed)
  · cases failed
    rfl

/-- No tree fails for want of operands or for too many values. -/
theorem not_ofStack_of_value {c : Context} {e : Expr} {fault : Fault}
    (failed : e.value c = .error fault) : fault.ofStack = false := by
  induction e with
  | number x => cases failed
  | constant name =>
      rw [value] at failed
      split at failed <;> cases failed
      rfl
  | var name =>
      rw [value, Context.lookup] at failed
      split at failed <;> cases failed
      rfl
  | group inner ih => exact ih failed
  | call name argument ih =>
      rw [value, bind_eq_error] at failed
      rcases failed with inner | ⟨x, -, applying⟩
      · exact ih inner
      · exact not_ofStack_of_applyName applying
  | callPair name first second firstIh secondIh =>
      simp only [value, bind_eq_error] at failed
      rcases failed with inFirst | ⟨x, -, inSecond | ⟨y, -, applying⟩⟩
      · exact firstIh inFirst
      · exact secondIh inSecond
      · exact not_ofStack_of_applyName applying
  | factorial operand ih | negate operand ih =>
      rw [value, bind_eq_error] at failed
      rcases failed with inner | ⟨x, -, applying⟩
      · exact ih inner
      · exact not_ofStack_of_applySymbol applying
  | binary symbol left right leftIh rightIh =>
      simp only [value, bind_eq_error] at failed
      rcases failed with inLeft | ⟨x, -, inRight | ⟨y, -, applying⟩⟩
      · exact leftIh inLeft
      · exact rightIh inRight
      · exact not_ofStack_of_applySymbol applying

end Syntax.Expr

/-- **Running the postfix order of a tree is evaluating the tree**: the outcome is the
same, whatever was on the stack before; no fault speaks of the number of values on the
stack; and a run that succeeds leaves the stack empty. -/
theorem Machine.run_ordered (m : Machine) (e : Expr) (saturated : e.Saturated) :
    (m.run e.ordered).1 = e.value m.context ∧
      (∀ consumer needed found,
        (m.run e.ordered).1 ≠ .error (.missingOperands consumer needed found)) ∧
      (∀ items, (m.run e.ordered).1 ≠ .error (.leftOver items)) ∧
      (∀ x, (m.run e.ordered).1 = .ok x → (m.run e.ordered).2 = { m with stack := [] }) := by
  have agrees := outcome_run_ordered m saturated
  refine ⟨agrees, fun consumer needed found failed => ?_, fun items failed => ?_,
    fun x success => ?_⟩
  · cases Expr.not_ofStack_of_value (agrees.symm.trans failed)
  · cases Expr.not_ofStack_of_value (agrees.symm.trans failed)
  · have value := agrees.symm.trans success
    rw [run_of_effect_ok (by rw [effect_ordered m.context saturated, value]; rfl)]

/-- With a value on the stack, `sin(X)+1/0` fails for `X`, which is unbound.  `atan(sin(30))`
takes 30 degrees for π/6 and gives the angle found times 180/π, both as the nearest doubles;
in gradians the factors are π/200 and 200/π. -/
theorem Machine.run_ordered_angles :
    let sum : Expr :=
      .binary "+" (.call "sin" (.var "X")) (.binary "/" (.number 1.0) (.number 0.0))
    let angle : Expr := .call "atan" (.call "sin" (.number 30.0))
    let m : Machine := ⟨Context.new .degrees Bindings.empty, [7.0]⟩
    let n : Machine := ⟨Context.new .gradians Bindings.empty, []⟩
    let found (radians factor : Float) : Except Fault Float := do
      let y ← Expr.applied "sin" [radians] (orNoValue (Number.inDomain? Float.sin radians))
      let z ← Expr.applied "atan" [y] (orNoValue (Number.inDomain? Float.atan y))
      return z * factor
    sum.Saturated ∧ (m.run sum.ordered).1 = .error (.undefinedVariable "X") ∧
      angle.Saturated ∧
      (m.run angle.ordered).1 = found 0.5235987755982988 57.29577951308232 ∧
      (n.run angle.ordered).1 = found 0.471238898038469 63.66197723675813 := by
  intro sum angle m n found
  have sumSaturated : sum.Saturated :=
    ⟨Expr.arity_eq_two rfl, ⟨fun f named => by cases named; rfl, trivial⟩,
      Expr.arity_eq_two rfl, trivial, trivial⟩
  have angleSaturated : angle.Saturated :=
    ⟨fun f named => by cases named; rfl, fun f named => by cases named; rfl, trivial⟩
  have degrees : (30.0 * (Number.pi / 180.0) : Float) = 0.5235987755982988 ∧
      (180.0 / Number.pi : Float) = 57.29577951308232 := by decide +kernel
  have gradians : (30.0 * (Number.pi / 200.0) : Float) = 0.471238898038469 ∧
      (200.0 / Number.pi : Float) = 63.66197723675813 := by decide +kernel
  refine ⟨sumSaturated, (Machine.run_ordered m sum sumSaturated).1, angleSaturated,
    (Machine.run_ordered m angle angleSaturated).1.trans ?_,
    (Machine.run_ordered n angle angleSaturated).1.trans ?_⟩
  · show found (30.0 * (Number.pi / 180.0)) (180.0 / Number.pi) = _
    rw [degrees.1, degrees.2]
  · show found (30.0 * (Number.pi / 200.0)) (200.0 / Number.pi) = _
    rw [gradians.1, gradians.2]

end SciCalc
