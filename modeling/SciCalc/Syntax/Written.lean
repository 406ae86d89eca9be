/-
# SciCalc.Syntax.Written -- expressions as they are written

A written expression is a tree whose leaves are spellings: numerals, names of constants
and single letters.  A text of it (`WrittenAs`) is its spellings in order, with a plus sign
or several wherever an operand has none on its left: at the beginning, behind a parenthesis
or a comma that opens it, and behind an operator (`WrittenSigned`).  White space may stand
anywhere in a text, inside a name or a numeral too (`Spaced`).

The tokens of a written expression are those of its tree: a sign becomes the number `-1`
and the product with it, plus signs and white space nothing.

How operators group plays no part here, so the trees are not bound to the levels of the
grammar, and a call may have any number of arguments.
-/
import SciCalc.Syntax.Expr
import SciCalc.Syntax.Spelling

namespace SciCalc.Syntax

set_option autoImplicit false

/-- The double nearest to the number spelled by digits and at most one point. -/
def Numeral.value (text : List Char) : Float :=
  let whole := text.takeWhile (· ≠ '.')
  let fraction := (text.dropWhile (· ≠ '.')).drop 1
  (Text.Numeral.decimal whole fraction 0).toFloat false

/-- An expression with the spellings of its leaves. -/
inductive Written
  | number (literal : List Char) (numeral : Numeral literal)
  | constant (name : String) (known : name ∈ constants.map Prod.fst)
  /-- A variable of one letter, which is not the constant `e`. -/
  | letter (c : Char) (letter : c.isAlpha = true) (noConstant : c ≠ 'e')
  | answer
  | group (inner : Written)
  | call (name : String) (known : name ∈ Fn.names.map Prod.fst) (arguments : List Written)
  | factorial (operand : Written)
  | negate (sign : String) (minus : sign ∈ minusSigns) (operand : Written)
  | binary (symbol : String) (written : (symbolLevel? symbol).isSome = true)
      (left right : Written)

namespace Written

mutual

def tokens : Written → List Token
  | number literal _ => [.number (Numeral.value literal)]
  | constant name _ => [.constant name]
  | letter c _ _ => [.var (String.singleton c.toUpper)]
  | answer => [.var answerName]
  | group inner => .lparen :: inner.tokens ++ [.rparen]
  | call name _ arguments => .function name :: .lparen :: listTokens arguments ++ [.rparen]
  | factorial operand => operand.tokens ++ [.operator factorialSymbol false]
  | negate _ _ operand => .number (-1.0) :: .signProduct :: operand.tokens
  | binary symbol _ left right => left.tokens ++ .operator symbol false :: right.tokens

/-- The tokens of arguments, with commas between them. -/
def listTokens : List Written → List Token
  | [] => []
  | [argument] => argument.tokens
  | argument :: others => argument.tokens ++ .comma :: listTokens others

end

end Written

mutual

/-- A text of an expression, without plus signs in front of the whole. -/
inductive WrittenAs : Written → List Char → Prop
  | number {literal : List Char} {numeral : Numeral literal} :
      WrittenAs (.number literal numeral) literal
  | constant {name : String} {known : name ∈ constants.map Prod.fst} :
      WrittenAs (.constant name known) name.toList
  | letter {c : Char} {letter : c.isAlpha = true} {noConstant : c ≠ 'e'} :
      WrittenAs (.letter c letter noConstant) [c]
  | answer : WrittenAs .answer answerName.toList
  | group {inner : Written} {text : List Char} (inside : WrittenSigned inner text) :
      WrittenAs (.group inner) ('(' :: text ++ [')'])
  | call {name : String} {known : name ∈ Fn.names.map Prod.fst} {arguments : List Written}
      {text : List Char} (inside : WrittenList arguments text) :
      WrittenAs (.call name known arguments) (name.toList ++ '(' :: text ++ [')'])
  | factorial {operand : Written} {text : List Char} (front : WrittenAs operand text) :
      WrittenAs (.factorial operand) (text ++ factorialSymbol.toList)
  | negate {sign : String} {minus : sign ∈ minusSigns} {operand : Written} {text : List Char}
      (behind : WrittenSigned operand text) :
      WrittenAs (.negate sign minus operand) (sign.toList ++ text)
  | binary {symbol : String} {written : (symbolLevel? symbol).isSome = true}
      {left right : Written} {front behind : List Char} (first : WrittenAs left front)
      (second : WrittenSigned right behind) :
      WrittenAs (.binary symbol written left right) (front ++ symbol.toList ++ behind)

/-- A text of an expression that has no operand on its left. -/
inductive WrittenSigned : Written → List Char → Prop
  | bare {e : Written} {text : List Char} (plain : WrittenAs e text) : WrittenSigned e text
  | plus {e : Written} {text : List Char} (signed : WrittenSigned e text) :
      WrittenSigned e ('+' :: text)

inductive WrittenList : List Written → List Char → Prop
  | none : WrittenList [] []
  | last {argument : Written} {text : List Char} (signed : WrittenSigned argument text) :
      WrittenList [argument] text
  | more {argument next : Written} {others : List Written} {front behind : List Char}
      (signed : WrittenSigned argument front) (rest : WrittenList (next :: others) behind) :
      WrittenList (argument :: next :: others) (front ++ ',' :: behind)

end

/-- A text with white space put in anywhere. -/
inductive Spaced : List Char → List Char → Prop
  | nil : Spaced [] []
  | blank {c : Char} {plain spaced : List Char} (blank : Text.isBlank c = true)
      (rest : Spaced plain spaced) : Spaced plain (c :: spaced)
  | keep {c : Char} {plain spaced : List Char} (rest : Spaced plain spaced) :
      Spaced (c :: plain) (c :: spaced)

end SciCalc.Syntax
