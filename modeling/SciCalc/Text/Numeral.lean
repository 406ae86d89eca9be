/-
# SciCalc.Text.Numeral -- reading numbers

Digits of any script count with their value.  A text that is to be a number, whole
(`int?`) or not (`double?`), may have white space around it, a sign, single low lines
between digits and, where fractions are allowed, an exponent; one of the words `inf`,
`infinity` and `nan` in any case will do too.  Any other text is no number.

Every decimal is read as the double nearest to it.
-/
import SciCalc.Number.Decimal
import SciCalc.Text.Blank
import SciCalc.Text.Digit

namespace SciCalc.Text.Numeral

set_option autoImplicit false

open SciCalc.Number (Decimal)

/-- The number that digits spell; other characters are passed over. -/
def ofDigitsNat (digits : List Char) : Nat :=
  (digits.filterMap digitValue?).foldl (fun n d => 10 * n + d) 0

/-- The decimal with the given digits before and after its point. -/
def decimal (whole fraction : List Char) (exponent : Int) : Decimal :=
  ⟨ofDigitsNat (whole ++ fraction), exponent - fraction.length⟩

/-- The text without its low lines; none unless each stands between two digits.
`after` tells whether the character before is a digit. -/
def dropLowLines? : Bool → List Char → Option (List Char)
  | _, [] => some []
  | after, '_' :: c :: cs =>
      if after && isDigit c then (dropLowLines? true cs).map (c :: ·) else none
  | _, '_' :: [] => none
  | _, c :: cs => (dropLowLines? (isDigit c) cs).map (c :: ·)

theorem dropLowLines?_eq_self {text : List Char} (solid : '_' ∉ text) (after : Bool) :
    dropLowLines? after text = some text := by
  induction text generalizing after with
  | nil => rfl
  | cons c cs ih =>
      rw [List.mem_cons, not_or] at solid
      rw [dropLowLines?, ih solid.2]
      · rfl
      · exact fun _ _ same => absurd same.symm solid.1
      · exact fun same => absurd same.symm solid.1

def splitSign : List Char → Bool × List Char
  | '-' :: cs => (true, cs)
  | '+' :: cs => (false, cs)
  | cs => (false, cs)

theorem splitSign_of_unsigned {text : List Char} (noMinus : '-' ∉ text) (noPlus : '+' ∉ text) :
    splitSign text = (false, text) := by
  unfold splitSign
  split
  · exact absurd List.mem_cons_self noMinus
  · exact absurd List.mem_cons_self noPlus
  · rfl

/-- Longer words for whole numbers are refused. -/
def maxIntDigits : Nat := 4300

def int? (word : String) : Option Int := do
  let text ← dropLowLines? false (trim isBlank word.toList)
  let (negative, digits) := splitSign text
  if digits.isEmpty || !digits.all isDigit || maxIntDigits < digits.length then none
  else
    let n : Int := ofDigitsNat digits
    some (if negative then -n else n)

/-- The exponent that ends a number: none for a malformed one, zero for a missing one. -/
def exponent? : List Char → Option Int
  | [] => some 0
  | c :: cs => do
      if c ≠ 'e' ∧ c ≠ 'E' then none
      else
        let (negative, digits) := splitSign cs
        if digits.isEmpty || !digits.all isDigit then none
        else
          let n : Int := ofDigitsNat digits
          some (if negative then -n else n)

/-- The magnitude of an unsigned number with a point or an exponent. -/
def magnitude? (text : List Char) : Option Decimal := do
  let whole := text.takeWhile isDigit
  let rest := text.dropWhile isDigit
  let (fraction, rest) :=
    match rest with
    | '.' :: rest => (rest.takeWhile isDigit, rest.dropWhile isDigit)
    | rest => ([], rest)
  if whole.isEmpty && fraction.isEmpty then none
  else return decimal whole fraction (← exponent? rest)

def double? (text : List Char) : Option Float := do
  let text ← dropLowLines? false (trim isBlank text)
  let (negative, text) := splitSign text
  let name := String.ofList (text.map Char.toLower)
  if name = "inf" || name = "infinity" then
    some (if negative then -Number.infinity else Number.infinity)
  else if name = "nan" then some (0.0 / 0.0)
  else (magnitude? text).map (·.toFloat negative)

def float? (word : String) : Option Float := double? word.toList

end SciCalc.Text.Numeral
