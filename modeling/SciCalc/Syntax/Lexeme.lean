/-
# SciCalc.Syntax.Lexeme -- splitting text into lexemes

The text of an expression, white space removed, is a sequence of lexemes: names of
functions, names of constants, numbers, operators, parentheses, commas and
variables.  A variable is `Ans` or a single ASCII letter.

`lexeme?` tries the kinds in that order and takes the longest text of the first
kind that fits.  `pieces` applies it from left to right; a character at which no
kind fits is a piece of its own.  The pieces lose nothing: their texts together
are the text that was split.

What counts as a digit here (`Digits`) is not for the reader of numbers to say: the two go
by tables of their own, which can be of different age.  A reading is certain to succeed
only where they agree (`Digits.Agree`).
-/
import SciCalc.Syntax.Function
import SciCalc.Syntax.Operation
import SciCalc.Text.Digit

namespace SciCalc.Syntax

set_option autoImplicit false

/-- The characters that the search for numbers takes for digits. -/
class Digits where
  isDigit : Char → Bool

/-- The digits that are found are those that can be read. -/
instance tableDigits : Digits := ⟨Text.isDigit⟩

/-- Whatever is taken for a digit can be read as one. -/
def Digits.Agree [Digits] : Prop := ∀ c, Digits.isDigit c = true → Text.isDigit c = true

theorem Digits.agree_table : Digits.Agree := fun _ digit => digit

/-- The kinds of lexemes, in the order they are tried. -/
inductive LexemeKind
  | function
  | constant
  | number
  | operator
  | lparen
  | rparen
  | comma
  | var
deriving DecidableEq, Repr

def longestName? : List (List Char) → List Char → Option (List Char)
  | [], _ => none
  | name :: names, text =>
      match longestName? names text with
      | some best =>
          if name.isPrefixOf text && best.length ≤ name.length then some name else some best
      | none => if name.isPrefixOf text then some name else none

/-- The longest number that the text begins with: digits with at most one point,
and at least one digit. -/
def numberText? [Digits] (text : List Char) : Option (List Char) :=
  let whole := text.takeWhile Digits.isDigit
  match text.dropWhile Digits.isDigit with
  | '.' :: rest =>
      let fraction := rest.takeWhile Digits.isDigit
      if whole.isEmpty && fraction.isEmpty then none else some (whole ++ '.' :: fraction)
  | _ => if whole.isEmpty then none else some whole

/-- The one variable whose name has several letters: the last answer. -/
def answerName : String := "Ans"

def variableText? (text : List Char) : Option (List Char) :=
  if answerName.toList.isPrefixOf text then some answerName.toList
  else
    match text with
    | c :: _ => if c.isAlpha then some [c] else none
    | [] => none

namespace LexemeKind

def all : List LexemeKind :=
  [function, constant, number, operator, lparen, rparen, comma, var]

/-- The longest text of a kind at the beginning of a text. -/
def text? [Digits] : LexemeKind → List Char → Option (List Char)
  | function => longestName? (Fn.names.map (·.1.toList))
  | constant => longestName? (constants.map (·.1.toList))
  | number => numberText?
  | operator => longestName? (Operation.symbols.map (·.1.toList))
  | lparen => longestName? [['(']]
  | rparen => longestName? [[')']]
  | comma => longestName? [[',']]
  | var => variableText?

end LexemeKind

structure Lexeme where
  kind : LexemeKind
  text : List Char
deriving DecidableEq, Repr

def lexeme? [Digits] (text : List Char) : Option Lexeme :=
  LexemeKind.all.findSome? fun kind => (kind.text? text).map (⟨kind, ·⟩)

/-- A stretch of text that is a lexeme, or a character at which there is none. -/
inductive Piece
  | lexeme (l : Lexeme)
  | skipped (c : Char)
deriving DecidableEq, Repr

def Piece.text : Piece → List Char
  | lexeme l => l.text
  | skipped c => [c]

/-- The pieces of a text after the first `passed` characters, where `next?` finds the
lexeme at the beginning of a text. -/
def splitAfter (next? : List Char → Option Lexeme) : Nat → List Char → List Piece
  | _, [] => []
  | passed + 1, _ :: cs => splitAfter next? passed cs
  | 0, c :: cs =>
      match next? (c :: cs) with
      | some l => .lexeme l :: splitAfter next? (l.text.length - 1) cs
      | none => .skipped c :: splitAfter next? 0 cs

theorem splitAfter_eq_drop (next? : List Char → Option Lexeme) (passed : Nat)
    (text : List Char) :
    splitAfter next? passed text = splitAfter next? 0 (text.drop passed) := by
  induction text generalizing passed with
  | nil => cases passed <;> rfl
  | cons c cs ih =>
      cases passed with
      | zero => rfl
      | succ n => simpa [splitAfter] using ih n

def pieces [Digits] (text : List Char) : List Piece := splitAfter lexeme? 0 text

end SciCalc.Syntax
