/-
# SciCalc.CommandLine.StoreSearch -- the arrow found by searching

`splitStore` reads a line from its end.  The same can be said by a pattern that is searched for
from the beginning: an arrow, blanks, a word, blanks and the end of the line, or a line feed
that ends it.  Blanks and words are taken as long as possible and given back one character after
the other where the rest of the pattern does not follow; the search begins at every place of the
line in turn, until it finds the pattern.

That the two agree is proved where the properties of `splitStore` are.
-/
import SciCalc.CommandLine.Store

namespace SciCalc.CommandLine

set_option autoImplicit false

/-- Take characters of a class, as many as possible, and one less whenever what is to come next
fails on the rest.  What comes next is given those taken and the rest. -/
def takeMost {β : Type} (isIn : Char → Bool) (next : List Char → List Char → Option β) :
    List Char → Option β
  | [] => next [] []
  | c :: cs =>
      (if isIn c then takeMost isIn (fun taken rest => next (c :: taken) rest) cs else none).or
        (next [] (c :: cs))

def behindArrow? : List Char → Option (List Char)
  | '-' :: '>' :: rest => some rest
  | '→' :: rest => some rest
  | _ => none

/-- Whether nothing of a line is left but a line feed. -/
def atEnd (rest : List Char) : Bool := rest = [] || rest = ['\n']

/-- A text of blanks up to the end of the line; the word in front of them is given back. -/
def marginAt? (word text : List Char) : Option (List Char) :=
  takeMost Text.isBlank (fun _ rest => if atEnd rest then some word else none) text

/-- The word that a text begins with, if it is the last thing of the line. -/
def wordAt? (text : List Char) : Option (List Char) :=
  takeMost Text.isWord (fun word rest => if word = [] then none else marginAt? word rest) text

/-- The word behind the arrow that a text begins with, if it is the last thing of the line. -/
def storeAt? (text : List Char) : Option (List Char) := do
  let rest ← behindArrow? text
  takeMost Text.isBlank (fun _ rest => wordAt? rest) rest

/-- What stands in front of the first place where the pattern begins, and its word; the whole
line if it begins nowhere. -/
def searchStore : List Char → List Char × Option (List Char)
  | [] => ([], none)
  | c :: cs =>
      match storeAt? (c :: cs) with
      | some word => ([], some word)
      | none => (c :: (searchStore cs).1, (searchStore cs).2)

end SciCalc.CommandLine
