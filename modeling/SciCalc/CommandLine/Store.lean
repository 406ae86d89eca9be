/-
# SciCalc.CommandLine.Store -- storing a result by an arrow

A line that ends in an arrow and a word asks to store its result in the register
that the word names: `1 + 2 -> A`.  The arrow is `->` or `→`; blanks may stand around
the word.  The expression is what stands in front of that arrow, which is the last
one of the line, since neither blanks nor words hold arrows.
-/
import SciCalc.Text.Blank
import SciCalc.Text.Word

namespace SciCalc.CommandLine

set_option autoImplicit false

/-- What stands in front of the arrow that a text ends with, the text given in
reverse. -/
def beforeArrow? : List Char → Option (List Char)
  | '→' :: rest => some rest.reverse
  | '>' :: '-' :: rest => some rest.reverse
  | _ => none

/-- The expression of a line and the word behind its arrow, if it ends in one. -/
def splitStore (line : List Char) : List Char × Option (List Char) :=
  let reversed := line.reverse.dropWhile Text.isBlank
  let word := reversed.takeWhile Text.isWord
  let front := (reversed.dropWhile Text.isWord).dropWhile Text.isBlank
  match word, beforeArrow? front with
  | _ :: _, some expression => (expression, some word.reverse)
  | _, _ => (line, none)

end SciCalc.CommandLine
