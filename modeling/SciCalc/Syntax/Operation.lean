/-
# SciCalc.Syntax.Operation -- operators and how they bind

There are seven operators with symbols of their own and one without: the product
with `-1` that a leading minus stands for (`negation`).  It binds as tightly as a
power and to the right, so that `-3^2` is `-(3^2)` and `2^-2` is `2^(-2)`.

The factorial is the only operator of one operand; it follows its operand.
-/
namespace SciCalc.Syntax

set_option autoImplicit false

/-- Which of two operators of one precedence takes the operand between them. -/
inductive Associativity
  | left
  | right
deriving DecidableEq, Repr

inductive Operation
  | add
  | sub
  | mul
  | div
  | rem
  | pow
  | factorial
  /-- The product that a leading minus stands for. -/
  | negation
deriving DecidableEq, Repr

namespace Operation

/-- The symbols of operators; some have two spellings. -/
def symbols : List (String × Operation) :=
  [("+", add), ("-", sub), ("−", sub), ("*", mul), ("×", mul), ("/", div), ("÷", div),
   ("%", rem), ("^", pow), ("!", factorial)]

def ofSymbol? (symbol : String) : Option Operation := symbols.lookup symbol

/-- Operators of higher precedence bind their operands first. -/
def precedence : Operation → Nat
  | add | sub => 1
  | mul | div | rem => 2
  | pow | negation => 3
  | factorial => 4

def associativity : Operation → Associativity
  | pow | negation => .right
  | _ => .left

def arity : Operation → Nat
  | factorial => 1
  | _ => 2

def postfixed (o : Operation) : Bool := o.arity == 1

/-- Whether an operator on the right of another leaves it the operand between them. -/
def yieldsTo (right left : Operation) : Bool :=
  match right.associativity with
  | .left => right.precedence ≤ left.precedence
  | .right => right.precedence < left.precedence

end Operation

def minusSigns : List String := ["-", "−"]

end SciCalc.Syntax
