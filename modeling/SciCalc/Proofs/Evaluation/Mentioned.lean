/-
# SciCalc.Proofs.Evaluation.Mentioned -- evaluation reads only what is mentioned

A context can make itself felt in two ways: by the values of variables and by the unit of
angles.  A variable is looked up only where its token stands.  The unit is asked for in two
places, for the argument of a trigonometric function and for the result of an inverse one,
and both are behind the same question about the function's category: a hyperbolic function
never sees it, its inverse neither, whether or not it has a value.

So two contexts that agree on the variables among the tokens, and on the unit where there is
a trigonometric function among them (`Context.AgreeOn`), cannot be told apart
(`evaluate_mentioned`).  What else they bind, and in which order, plays no part.
-/
import SciCalc.Proofs.Evaluation.EvaluationFault
import SciCalc.Proofs.Syntax.Conservation

namespace SciCalc

set_option autoImplicit false

open SciCalc.Syntax (Token Fn tokenize toPostfix)

variable {c d : Context} {ts us : List Token} {t : Token}

/-- Two contexts in which the variables among some tokens have the same outcome, a value or
none, and which have the same unit of angles unless no function among the tokens is
trigonometric. -/
structure Context.AgreeOn (ts : List Token) (c d : Context) : Prop where
  lookups : ∀ name, .var name ∈ ts → c.lookup name = d.lookup name
  angles : c.unit = d.unit ∨
    ∀ name f, .function name ∈ ts → Fn.ofName? name = some f → f.category ≠ .trig

theorem Context.AgreeOn.of_subset (agree : Context.AgreeOn us c d) (among : ∀ t ∈ ts, t ∈ us) :
    Context.AgreeOn ts c d := by
  refine ⟨fun name inside => agree.lookups name (among _ inside), ?_⟩
  rcases agree.angles with same | plain
  · exact .inl same
  · exact .inr fun name f inside => plain name f (among _ inside)

namespace Machine

/-- The unit of angles is read by trigonometric functions only. -/
theorem applyFunction_eq_of_ne_trig {f : Fn} (plain : f.category ≠ .trig) (unit other : AngleUnit)
    (name : String) (arguments : List Float) :
    applyFunction unit name f arguments = applyFunction other name f arguments := by
  rw [applyFunction, applyFunction, if_neg plain, if_neg plain]

/-- A token does the same in contexts that agree on it. -/
theorem step_agree (agree : Context.AgreeOn ts c d) (inside : t ∈ ts) (stack : List Float) :
    step c stack t = step d stack t := by
  cases t with
  | number _ | constant _ | operator _ _ | lparen | rparen | comma => rfl
  | var name => rw [step, step, agree.lookups name inside]
  | function name =>
      rcases agree.angles with same | plain
      · rw [step, step, same]
      · rw [step, step]
        cases entry : Fn.ofName? name with
        | none => rfl
        | some f =>
            have applied (arguments : List Float) : applyFunction c.unit name f arguments =
                applyFunction d.unit name f arguments :=
              applyFunction_eq_of_ne_trig (plain name f inside entry) _ _ _ _
            simp only [applied]

theorem foldlM_agree (agree : Context.AgreeOn ts c d) (stack : List Float) :
    ts.foldlM (step c) stack = ts.foldlM (step d) stack := by
  induction ts generalizing stack with
  | nil => rfl
  | cons t ts ih =>
      rw [List.foldlM_cons, List.foldlM_cons, step_agree agree List.mem_cons_self]
      have rest : Context.AgreeOn ts c d :=
        agree.of_subset fun u inside => List.mem_cons_of_mem t inside
      simp only [ih rest]

/-- Machines in contexts that agree have the same outcome and leave the same stack, whatever
was on their stacks before. -/
theorem run_agree (agree : Context.AgreeOn ts c d) (below beneath : List Float) :
    (run ⟨c, below⟩ ts).1 = (run ⟨d, beneath⟩ ts).1 ∧
      (run ⟨c, below⟩ ts).2.stack = (run ⟨d, beneath⟩ ts).2.stack := by
  rw [run, run, foldlM_agree agree]
  generalize ts.foldlM (step d) [] = ended
  cases ended with
  | error halt => exact ⟨rfl, rfl⟩
  | ok stack => rcases stack with _ | ⟨x, _ | ⟨y, more⟩⟩ <;> exact ⟨rfl, rfl⟩

end Machine

theorem evaluatePostfix_agree (agree : Context.AgreeOn ts c d) :
    evaluatePostfix c ts = evaluatePostfix d ts :=
  (Machine.run_agree agree [] []).1

/-- The tokens in postfix order are among those of the text. -/
theorem Syntax.mem_of_parse {strict : Bool} {text : String} {ordered : List Token}
    (parses : (parse strict text).outcome = .ok ordered) :
    ∃ ts, (tokenize strict text).outcome = .ok ts ∧ ∀ t ∈ ordered, t ∈ ts := by
  obtain ⟨ts, read, known, ends⟩ := known_of_parse Digits.agree_table parses
  refine ⟨ts, read, fun t inside => ?_⟩
  obtain ⟨y, reached, finished⟩ := bind_eq_ok.1 ends
  have reached : Yard.Reaches ts y := reached
  have conserved := ((reached.kept known).2.2.finish finished).1
  exact (List.mem_filter.1 (conserved.subset inside)).1

/-- **Evaluation reads only what the expression mentions.**  In two contexts that agree on its
variables, and on the unit of angles if it has a trigonometric function, tokens in postfix
order have the same outcome, value or fault; and so has an expression, with the same notes
on the way.  One that cannot be read mentions nothing. -/
theorem evaluate_mentioned (c d : Context) :
    (∀ ts, Context.AgreeOn ts c d → evaluatePostfix c ts = evaluatePostfix d ts) ∧
    ∀ (strict : Bool) (expression : String),
      (∀ ts, (tokenize strict expression).outcome = .ok ts → Context.AgreeOn ts c d) →
        evaluate c strict expression = evaluate d strict expression := by
  refine ⟨fun ts => evaluatePostfix_agree, fun strict expression agree => ?_⟩
  rw [evaluate, evaluate]
  cases parsed : Syntax.parse strict expression with
  | mk notes outcome =>
      cases outcome with
      | error fault => rfl
      | ok ordered =>
          obtain ⟨ts, read, among⟩ := Syntax.mem_of_parse (congrArg Report.outcome parsed)
          have same := evaluatePostfix_agree ((agree ts read).of_subset among)
          show Report.bind _ _ = Report.bind _ _
          simp only [Report.bind, same]

/-- An inverse hyperbolic function and a variable that is bound to no value in one context and
not bound in the other; the units of angles differ, and so do the order and the names. -/
theorem evaluate_mentioned_inverse :
    let c : Context := .new .degrees (.ofList [("A", none), ("X", some 0.5), ("B", some 2.0)])
    let d : Context := .new .gradians (.ofList [("x", some 0.5), ("Ans", some 7.0)])
    (tokenize true "atanh(x)+a").outcome =
        .ok [.function "atanh", .lparen, .var "X", .rparen, .operator "+" false, .var "A"] ∧
      Context.AgreeOn [.function "atanh", .lparen, .var "X", .rparen, .operator "+" false, .var "A"]
        c d ∧
      evaluate c true "atanh(x)+a" = evaluate d true "atanh(x)+a" := by
  intro c d
  have read : (tokenize true "atanh(x)+a").outcome =
      .ok [.function "atanh", .lparen, .var "X", .rparen, .operator "+" false, .var "A"] := rfl
  have agree : Context.AgreeOn
      [.function "atanh", .lparen, .var "X", .rparen, .operator "+" false, .var "A"] c d := by
    refine ⟨fun name inside => ?_, .inr fun name f inside entry => ?_⟩
    · simp only [List.mem_cons, List.not_mem_nil, reduceCtorEq, Token.var.injEq, or_false,
        false_or] at inside
      rcases inside with rfl | rfl
      · rfl
      · rfl
    · simp only [List.mem_cons, List.not_mem_nil, reduceCtorEq, Token.function.injEq,
        or_false] at inside
      subst inside
      cases entry
      decide
  refine ⟨read, agree, (evaluate_mentioned c d).2 _ _ fun ts same => ?_⟩
  rw [read] at same
  cases same
  exact agree

end SciCalc
