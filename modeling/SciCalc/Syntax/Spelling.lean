/-
# SciCalc.Syntax.Spelling -- which texts are lexemes

What a lexeme of each kind can look like, said of finished texts and without a scanner:
a name from the table of its kind, a numeral, or one ASCII letter (`LexemeKind.Spells`).

A lexeme leads a text if it begins the text and nothing longer does that is a lexeme of
any kind (`Lexeme.Leads`).  Two kinds can share a text only where the constant `e` meets
the letter; the constant leads then.

`Splits` is how a text falls into pieces: a lexeme where one leads the rest, and a single
character where no text of any kind begins.
-/
import SciCalc.Syntax.Reading

namespace SciCalc.Syntax

set_option autoImplicit false

/-- Digits with at most one point before, among or behind them, and at least one digit. -/
inductive Numeral [Digits] : List Char → Prop
  | whole {digits : List Char} (some : digits ≠ []) (all : ∀ c ∈ digits, Digits.isDigit c = true) :
      Numeral digits
  | pointed {whole fraction : List Char} (some : whole ≠ [] ∨ fraction ≠ [])
      (wholeDigits : ∀ c ∈ whole, Digits.isDigit c = true)
      (fractionDigits : ∀ c ∈ fraction, Digits.isDigit c = true) :
      Numeral (whole ++ '.' :: fraction)

theorem Numeral.digit [Digits] {c : Char} (digit : Digits.isDigit c = true) : Numeral [c] :=
  .whole (List.cons_ne_nil c []) fun _ inside => List.mem_singleton.1 inside ▸ digit

namespace LexemeKind

/-- The names that a kind has in a table. -/
def listed : LexemeKind → List (List Char)
  | function => Fn.names.map (·.1.toList)
  | constant => constants.map (·.1.toList)
  | number => []
  | operator => Operation.symbols.map (·.1.toList)
  | lparen => [['(']]
  | rparen => [[')']]
  | comma => [[',']]
  | var => [answerName.toList]

inductive Spells [Digits] : LexemeKind → List Char → Prop
  | listed {kind : LexemeKind} {text : List Char} (member : text ∈ kind.listed) : Spells kind text
  | numeral {text : List Char} (numeral : Numeral text) : Spells number text
  | letter {c : Char} (letter : c.isAlpha = true) : Spells var [c]

end LexemeKind

/-- A lexeme begins a text, and no other text of a kind that begins it is longer. -/
structure Lexeme.Leads (l : Lexeme) (text : List Char) : Prop where
  spelled : l.kind.Spells l.text
  begins : l.text <+: text
  longest : ∀ kind other, LexemeKind.Spells kind other → other <+: text →
    other.length ≤ l.text.length
  /-- A constant comes before a letter, and there is no other choice of kinds. -/
  first : ∀ kind, LexemeKind.Spells kind l.text →
    kind = l.kind ∨ l.kind = .constant ∧ kind = .var

/-- No lexeme of any kind begins a text. -/
def Unled (text : List Char) : Prop :=
  ∀ kind other, LexemeKind.Spells kind other → ¬ other <+: text

inductive Splits : List Char → List Piece → Prop
  | nil : Splits [] []
  | lexeme {l : Lexeme} {rest : List Char} {ps : List Piece} (leads : l.Leads (l.text ++ rest))
      (more : Splits rest ps) : Splits (l.text ++ rest) (.lexeme l :: ps)
  | skipped {c : Char} {rest : List Char} {ps : List Piece} (unled : Unled (c :: rest))
      (more : Splits rest ps) : Splits (c :: rest) (.skipped c :: ps)

def Piece.lexeme? : Piece → Option Lexeme
  | lexeme l => some l
  | skipped _ => none

/-- The tokens of lexemes one after the other, the first of them after a given token. -/
def tokensAfter : Option Token → List Lexeme → List Token
  | _, [] => []
  | previous, l :: ls =>
      l.tokens previous ++ tokensAfter ((l.tokens previous).getLast?.or previous) ls

end SciCalc.Syntax
