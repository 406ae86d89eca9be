/-
# SciCalc.Proofs.Evaluation.Misplaced -- what evaluates, and which of it is an expression

An expression that has a value has its parentheses, commas and numbers of arguments right,
and its tokens in postfix order find their operands and leave one value.  Nothing else is
asked of it.  Where operands and operators stand is never looked at, so an operator may
come behind both of its operands and a pair of parentheses may hold nothing
(`evaluated_out_of_place`).  What has a value is an expression of the grammar exactly when
its tokens stand in place (`evaluated_shape`).
-/
import SciCalc.Proofs.Evaluation.EvaluationFault
import SciCalc.Proofs.Evaluation.StackDepth
import SciCalc.Proofs.Syntax.Sentence

namespace SciCalc

set_option autoImplicit false

open SciCalc.Syntax (Expr Token tokenize toPostfix depthAfter inPlace)

/-- The tokens that a text has, when it can be parsed. -/
theorem Syntax.tokens_of_parse {strict : Bool} {text : String} {ordered : List Token}
    (parsed : (parse strict text).outcome = .ok ordered) :
    ∃ ts, (tokenize strict text).outcome = .ok ts ∧ toPostfix ts = .ok ordered ∧
      ∀ t ∈ ts, t.Named := by
  obtain ⟨ts, read, -, shunted⟩ := known_of_parse Digits.agree_table parsed
  obtain ⟨ls, spelled, rfl⟩ := lexemes_of_tokenize Digits.agree_table read
  exact ⟨_, read, shunted, named_tokensAfter spelled⟩

/-- A text with a token out of place is not that of an expression. -/
theorem Syntax.not_expression {strict : Bool} {text : String} {ts : List Token}
    (read : (tokenize strict text).outcome = .ok ts) (misplaced : inPlace none ts = false) :
    ¬ ∃ (us : List Token) (e : Expr), (tokenize strict text).outcome = .ok us ∧ e.Fits .sum ∧
      e.tokens = us := by
  rintro ⟨us, e, again, fits, tokens⟩
  cases read.symm.trans again
  have place := Derives.inPlace ⟨e, fits, tokens⟩
  rw [misplaced] at place
  cases place

/-- **What evaluates has a postfix order that finds its operands and leaves one value, and it
is an expression exactly when its tokens stand in place.** -/
theorem evaluated_shape {context : Context} {strict : Bool} {expression : String} {x : Float}
    (evaluated : (evaluate context strict expression).outcome = .ok x) :
    ∃ ts ordered, (tokenize strict expression).outcome = .ok ts ∧ toPostfix ts = .ok ordered ∧
      depthAfter 0 ordered = .ok 1 ∧ evaluatePostfix context ordered = .ok x ∧
      ((∃ e : Expr, e.Fits .sum ∧ e.tokens = ts) ↔ inPlace none ts = true) := by
  rw [outcome_evaluate] at evaluated
  obtain ⟨ordered, parsed, value⟩ := bind_eq_ok.1 evaluated
  obtain ⟨ts, read, shunted, named⟩ := Syntax.tokens_of_parse parsed
  exact ⟨ts, ordered, read, shunted, depthAfter_of_evaluatePostfix value, value,
    Syntax.derives_iff_inPlace named shunted⟩

/-- A sign and a call. -/
theorem evaluated_shape_call :
    (evaluate (.new .degrees .empty) true "-2+abs(3)").outcome = .ok 1.0 ∧
      ∃ ts ordered, (tokenize true "-2+abs(3)").outcome = .ok ts ∧ toPostfix ts = .ok ordered ∧
        depthAfter 0 ordered = .ok 1 ∧
        evaluatePostfix (.new .degrees .empty) ordered = .ok 1.0 ∧
        ((∃ e : Expr, e.Fits .sum ∧ e.tokens = ts) ↔ inPlace none ts = true) := by
  have evaluated : (evaluate (.new .degrees .empty) true "-2+abs(3)").outcome = .ok 1.0 := by
    decide +kernel
  exact ⟨evaluated, evaluated_shape evaluated⟩

/-- An operator behind both of its operands has a value, and so has a pair of parentheses
around nothing, but neither text is that of an expression. -/
theorem evaluated_out_of_place :
    (evaluate (.new .degrees .empty) true "(2)(3)+").outcome = .ok 5.0 ∧
      (¬ ∃ (ts : List Token) (e : Expr), (tokenize true "(2)(3)+").outcome = .ok ts ∧
        e.Fits .sum ∧ e.tokens = ts) ∧
      (evaluate (.new .degrees .empty) true "5()").outcome = .ok 5.0 ∧
      ¬ ∃ (ts : List Token) (e : Expr), (tokenize true "5()").outcome = .ok ts ∧
        e.Fits .sum ∧ e.tokens = ts := by
  have product : (tokenize true "(2)(3)+").outcome = .ok
      [.lparen, .number 2.0, .rparen, .lparen, .number 3.0, .rparen, .operator "+" false] := by
    decide +kernel
  have empty : (tokenize true "5()").outcome = .ok [.number 5.0, .lparen, .rparen] := by
    decide +kernel
  exact ⟨by decide +kernel, Syntax.not_expression product (by decide +kernel),
    by decide +kernel, Syntax.not_expression empty (by decide +kernel)⟩

end SciCalc
