/-
# SciCalc.Syntax.Expr -- expressions as trees

A tree holds everything that an expression's tokens show, parentheses included: a
group and a call are nodes.  `tokens` lists it in infix order, `ordered` in postfix
order, where parentheses and commas vanish and a leading minus has become the number
`-1` in front of its operand and the product behind it.

`Fits` is the grammar.  Sums and products group to the left, powers to the right; a
leading minus stands at the level of powers, on their right and above products; a
factorial follows a primary expression:

  sum     ::= sum (+ | - | −) product | product
  product ::= product (* | × | / | ÷ | %) power | power
  power   ::= primary ^ power | minus power | primary
  primary ::= primary ! | number | constant | variable | ( sum ) | name ( sum , … )

where a call has as many arguments as its function takes, which is one or two.
-/
import SciCalc.Syntax.Token

namespace SciCalc.Syntax

set_option autoImplicit false

inductive Expr
  | number (value : Float)
  | constant (name : String)
  | var (name : String)
  | group (inner : Expr)
  | call (name : String) (argument : Expr)
  | callPair (name : String) (first second : Expr)
  | factorial (operand : Expr)
  | negate (operand : Expr)
  | binary (symbol : String) (left right : Expr)
deriving DecidableEq

/-- The levels of the grammar, from loose to tight. -/
inductive Level
  | sum
  | product
  | power
  | primary
deriving DecidableEq, Repr

/-- The level of a symbol that is written between operands. -/
def symbolLevel? : String → Option Level
  | "+" | "-" | "−" => some .sum
  | "*" | "×" | "/" | "÷" | "%" => some .product
  | "^" => some .power
  | _ => none

def factorialSymbol : String := "!"

namespace Expr

def tokens : Expr → List Token
  | number value => [.number value]
  | constant name => [.constant name]
  | var name => [.var name]
  | group inner => .lparen :: inner.tokens ++ [.rparen]
  | call name argument => .function name :: .lparen :: argument.tokens ++ [.rparen]
  | callPair name first second =>
      .function name :: .lparen :: first.tokens ++ .comma :: second.tokens ++ [.rparen]
  | factorial operand => operand.tokens ++ [.operator factorialSymbol false]
  | negate operand => .number (-1.0) :: .signProduct :: operand.tokens
  | binary symbol left right => left.tokens ++ .operator symbol false :: right.tokens

def ordered : Expr → List Token
  | number value => [.number value]
  | constant name => [.constant name]
  | var name => [.var name]
  | group inner => inner.ordered
  | call name argument => argument.ordered ++ [.function name]
  | callPair name first second => first.ordered ++ second.ordered ++ [.function name]
  | factorial operand => operand.ordered ++ [.operator factorialSymbol false]
  | negate operand => .number (-1.0) :: operand.ordered ++ [.signProduct]
  | binary symbol left right =>
      left.ordered ++ right.ordered ++ [.operator symbol false]

/-- The grammar: an expression that can stand at a level. -/
inductive Fits : Level → Expr → Prop
  | sum {symbol : String} {left right : Expr} (level : symbolLevel? symbol = some .sum)
      (leftFits : Fits .sum left) (rightFits : Fits .product right) :
      Fits .sum (binary symbol left right)
  | ofProduct {e : Expr} (fits : Fits .product e) : Fits .sum e
  | product {symbol : String} {left right : Expr} (level : symbolLevel? symbol = some .product)
      (leftFits : Fits .product left) (rightFits : Fits .power right) :
      Fits .product (binary symbol left right)
  | ofPower {e : Expr} (fits : Fits .power e) : Fits .product e
  | power {symbol : String} {left right : Expr} (level : symbolLevel? symbol = some .power)
      (leftFits : Fits .primary left) (rightFits : Fits .power right) :
      Fits .power (binary symbol left right)
  | negate {operand : Expr} (fits : Fits .power operand) : Fits .power (negate operand)
  | ofPrimary {e : Expr} (fits : Fits .primary e) : Fits .power e
  | factorial {operand : Expr} (fits : Fits .primary operand) :
      Fits .primary (factorial operand)
  | number (value : Float) : Fits .primary (number value)
  | constant {name : String} (known : (constant? name).isSome) : Fits .primary (constant name)
  | var (name : String) : Fits .primary (var name)
  | group {inner : Expr} (fits : Fits .sum inner) : Fits .primary (group inner)
  | call {name : String} {f : Fn} {argument : Expr} (known : Fn.ofName? name = some f)
      (takesOne : f.arity = 1) (fits : Fits .sum argument) : Fits .primary (call name argument)
  | callPair {name : String} {f : Fn} {first second : Expr} (known : Fn.ofName? name = some f)
      (takesTwo : f.arity = 2) (firstFits : Fits .sum first) (secondFits : Fits .sum second) :
      Fits .primary (callPair name first second)

end Expr

/-- Every function takes one or two arguments, so the two forms of calls are all. -/
theorem Fn.arity_eq_one_or_two (f : Fn) : f.arity = 1 ∨ f.arity = 2 := by
  cases f <;> decide

end SciCalc.Syntax
