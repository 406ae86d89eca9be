/-
# SciCalc.Syntax.Token -- the tokens of an expression

Tokens name their operators, functions and constants by the spelling found in the
text, so a list of tokens can also hold names that mean nothing; what a name means
is looked up where it is used.  The one token that no text spells is the product a
leading minus stands for: an operator marked `unary`.
-/
import SciCalc.Number.Notation
import SciCalc.Syntax.Function
import SciCalc.Syntax.Operation

namespace SciCalc.Syntax

set_option autoImplicit false

inductive Token
  | number (value : Float)
  | operator (symbol : String) (unary : Bool)
  | function (name : String)
  | constant (name : String)
  | var (name : String)
  | lparen
  | rparen
  | comma
deriving DecidableEq

namespace Token

/-- The spelling of a token, numbers with six significant digits. -/
def text : Token → String
  | number value => Number.general value
  | operator symbol _ => symbol
  | function name => name
  | constant name => name
  | var name => name
  | lparen => "("
  | rparen => ")"
  | comma => ","

def joined (tokens : List Token) : String := " ".intercalate (tokens.map text)

/-- The token of the product that a leading minus stands for. -/
def signProduct : Token := operator "×" true

def isLParen : Token → Bool
  | lparen => true
  | _ => false

def isParen : Token → Bool
  | lparen | rparen => true
  | _ => false

/-- What an operator symbol means; the unary mark overrides the symbol. -/
def operationOf? (symbol : String) (unary : Bool) : Option Operation :=
  if unary then some .negation else Operation.ofSymbol? symbol

def operation? : Token → Option Operation
  | operator symbol unary => operationOf? symbol unary
  | _ => none

end Token

end SciCalc.Syntax
