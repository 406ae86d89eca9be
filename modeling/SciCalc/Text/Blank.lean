/-
# SciCalc.Text.Blank -- white space

Blanks are the characters with the White_Space property: they are dropped from an
expression before it is read.  Lines of input are trimmed of slightly more, of the
four information separators below the space too (`isMargin`).
-/
import SciCalc.Text.Ranges

namespace SciCalc.Text

set_option autoImplicit false

/-- The characters with the White_Space property, in ascending order. -/
def blankRanges : List (Nat × Nat) :=
  [(0x9, 0xD), (0x20, 0x20), (0x85, 0x85), (0xA0, 0xA0), (0x1680, 0x1680),
   (0x2000, 0x200A), (0x2028, 0x2029), (0x202F, 0x202F), (0x205F, 0x205F), (0x3000, 0x3000)]

def isBlank (c : Char) : Bool := inRanges blankRanges c

/-- Whether a character is trimmed from the ends of a line. -/
def isMargin (c : Char) : Bool := isBlank c || inRanges [(0x1C, 0x1F)] c

/-- What is left when the characters of a class are taken away at both ends. -/
def trim (isOuter : Char → Bool) (cs : List Char) : List Char :=
  ((cs.dropWhile isOuter).reverse.dropWhile isOuter).reverse

theorem trim_eq_self {isOuter : Char → Bool} {cs : List Char}
    (inner : ∀ c ∈ cs, isOuter c = false) : trim isOuter cs = cs := by
  have kept (ds : List Char) (among : ∀ d ∈ ds, d ∈ cs) : ds.dropWhile isOuter = ds :=
    (@takeWhile_dropWhile_append isOuter [] ds (fun _ none => absurd none List.not_mem_nil)
      fun d first => inner d (among d (List.mem_of_mem_head? first))).2
  rw [trim, kept cs fun _ => id, kept cs.reverse fun _ => List.mem_reverse.1, List.reverse_reverse]

def trimMargin (cs : List Char) : List Char := trim isMargin cs

def squeeze (cs : List Char) : List Char := cs.filter (!isBlank ·)

end SciCalc.Text
