/-
# SciCalc.Syntax.Reading -- from the text of an expression to its tokens

White space is dropped, the rest is split into pieces, and every lexeme becomes a
token, with two exceptions in prefix position, where an operator has no operand on
its left: a minus becomes the number `-1` and the product with it, a plus nothing.
Prefix position is the beginning, and what follows an opening parenthesis, a comma or
an operator other than the factorial (`inPrefixPosition`).

A character that begins no lexeme ends a strict reading with a fault that quotes
the text from there on.  A lenient reading makes a note and goes on behind it.

A number is read by its digits.  One with a digit that has no value ends either reading.
-/
import SciCalc.Note
import SciCalc.Syntax.Lexeme
import SciCalc.Text.Blank
import SciCalc.Text.Numeral

namespace SciCalc.Syntax

set_option autoImplicit false

/-- Whether an operator after this token has no operand on its left. -/
def inPrefixPosition : Option Token → Bool
  | none | some .lparen | some .comma => true
  | some (.operator symbol unary) =>
      match Token.operationOf? symbol unary with
      | some operation => !operation.postfixed
      | none => false
  | some _ => false

/-- An ASCII letter in upper case; a longer name stays as it is. -/
def variableName (text : List Char) : String :=
  match text with
  | [c] => String.singleton c.toUpper
  | _ => String.ofList text

/-- The tokens of a lexeme after a token, or at the beginning. -/
def Lexeme.tokens (l : Lexeme) (previous : Option Token) : List Token :=
  let text := String.ofList l.text
  match l.kind with
  | .function => [.function text]
  | .constant => [.constant text]
  | .number => (Text.Numeral.double? l.text).toList.map .number
  | .operator =>
      if inPrefixPosition previous then
        if text ∈ minusSigns then [.number (-1.0), .signProduct]
        else if text = "+" then []
        else [.operator text false]
      else [.operator text false]
  | .lparen => [.lparen]
  | .rparen => [.rparen]
  | .comma => [.comma]
  | .var => [.var (variableName l.text)]

/-- Whether a lexeme is a number that cannot be read. -/
def Lexeme.isUnread (l : Lexeme) : Bool :=
  l.kind = .number && (Text.Numeral.double? l.text).isNone

/-- What reading a text gave: the tokens and the characters skipped.  If a character was
refused, there is the text from there on, and if a number could not be read, that number. -/
structure Reading where
  tokens : List Token
  skipped : List Char
  refused : Option (List Char)
  unread : Option (List Char)

def Reading.ofPieces (strict : Bool) : Option Token → List Piece → Reading
  | _, [] => ⟨[], [], none, none⟩
  | previous, .lexeme l :: rest =>
      if l.isUnread then ⟨[], [], none, some l.text⟩
      else
        let tokens := l.tokens previous
        let further := ofPieces strict (tokens.getLast?.or previous) rest
        { further with tokens := tokens ++ further.tokens }
  | previous, .skipped c :: rest =>
      if strict then ⟨[], [], some (c :: rest.flatMap Piece.text), none⟩
      else
        let further := ofPieces strict previous rest
        { further with skipped := c :: further.skipped }

def Reading.ofText [Digits] (strict : Bool) (text : String) : Reading :=
  ofPieces strict none (pieces (Text.squeeze text.toList))

def Reading.notes (r : Reading) (text : String) : List Note :=
  r.skipped.map fun c => .skipped c (String.ofList (Text.squeeze text.toList))

/-- The fault with which a reading ended early. -/
def Reading.fault? (r : Reading) : Option Fault :=
  match r.refused, r.unread with
  | some rest, _ => some (.unreadable (String.ofList rest))
  | none, some number => some (.unreadNumber (String.ofList number))
  | none, none => none

def tokenize [Digits] (strict : Bool) (text : String) : Calc (List Token) :=
  let reading := Reading.ofText strict text
  ⟨reading.notes text,
    match reading.fault? with
    | some fault => .error fault
    | none => .ok reading.tokens⟩

end SciCalc.Syntax
