/-
# SciCalc.Text.FieldLayout -- how a field of a template may be laid out

A layout has these parts, in this order, and every one of them can be left out: a
filler and an alignment, a rule for the sign, the mark `z` against negative zeros, the
mark `#` of the alternate form, a zero that asks for padding, a width, a separator of
digit groups, a precision behind a point, and a letter for the presentation.

What a field holds decides which layouts it accepts (`Content.fault?`): a number those
with the presentation of a decimal fraction, a text those without the parts that are
about numbers, anything else the empty one only.
-/
import SciCalc.Text.Numeral

namespace SciCalc.Text

set_option autoImplicit false

/-- What a field of a template holds. -/
inductive Content
  | number
  | text
  | other
deriving DecidableEq, Repr

inductive LayoutFault
  | tooManyDigits
  | bothSeparators
  | noPrecision
  | precisionTooLarge
  /-- Something is left over behind all parts. -/
  | unreadable (layout : List Char) (content : Content)
  /-- Digit groups have no separator under that presentation. -/
  | separator (mark letter : Char)
  | presentation (letter : Char) (content : Content)
  /-- A part that is about numbers, for a text. -/
  | numeric (part : String)
  /-- Anything at all, for what is neither number nor text. -/
  | refused
deriving DecidableEq, Repr

def maxCount : Nat := Nat.pow 2 63 - 1

def maxPrecision : Nat := Nat.pow 2 31 - 1

structure FieldLayout where
  alignment : Option Char
  sign : Option Char
  noNegativeZero : Bool
  alternate : Bool
  separator : Option Char
  precision : Option Nat
  presentation : Option Char
deriving DecidableEq, Repr

namespace FieldLayout

def isAlignment (c : Char) : Bool := c = '<' || c = '>' || c = '=' || c = '^'

def isSign (c : Char) : Bool := c = ' ' || c = '+' || c = '-'

/-- The first character, if it is accepted, and what follows. -/
def optional (accepts : Char → Bool) : List Char → Option Char × List Char
  | c :: cs => if accepts c then (some c, cs) else (none, c :: cs)
  | [] => (none, [])

/-- The alignment, whether a filler stands in front of it, and what follows. -/
def takeAlignment : List Char → Option Char × Bool × List Char
  | filler :: c :: cs =>
      if isAlignment c then (some c, true, cs)
      else if isAlignment filler then (some filler, false, c :: cs)
      else (none, false, filler :: c :: cs)
  | cs =>
      let (alignment, rest) := optional isAlignment cs
      (alignment, false, rest)

/-- The digits in front, and what follows. -/
def takeDigits (cs : List Char) : Except LayoutFault (List Char × List Char) :=
  let digits := cs.takeWhile isDigit
  if maxCount < Numeral.ofDigitsNat digits then .error .tooManyDigits
  else .ok (digits, cs.dropWhile isDigit)

/-- The separator of digit groups, and what follows.  Only one can be given. -/
def takeSeparator (cs : List Char) : Except LayoutFault (Option Char × List Char) :=
  match cs with
  | ',' :: '_' :: _ => .error .bothSeparators
  | '_' :: ',' :: _ => .error .bothSeparators
  | ',' :: rest => .ok (some ',', rest)
  | '_' :: rest => .ok (some '_', rest)
  | _ => .ok (none, cs)

/-- The precision, and what follows.  A point needs digits behind it. -/
def takePrecision (cs : List Char) : Except LayoutFault (Option Nat × List Char) :=
  match cs with
  | '.' :: rest => do
      let (digits, rest) ← takeDigits rest
      if digits.isEmpty then throw .noPrecision
      return (some (Numeral.ofDigitsNat digits), rest)
  | _ => .ok (none, cs)

/-- The parts of a layout that a field with some content is given. -/
def read (content : Content) (layout : List Char) : Except LayoutFault FieldLayout := do
  let (alignment, filled, cs) := takeAlignment layout
  let (sign, cs) := optional isSign cs
  let (zero, cs) := optional (· = 'z') cs
  let (alternate, cs) := optional (· = '#') cs
  let (_, cs) := if filled then (none, cs) else optional (· = '0') cs
  let (_, cs) ← takeDigits cs
  let (separator, cs) ← takeSeparator cs
  let (precision, cs) ← takePrecision cs
  match cs with
  | _ :: _ :: _ => throw (.unreadable layout content)
  | _ =>
      return ⟨alignment, sign, zero.isSome, alternate.isSome, separator, precision, cs.head?⟩

def fractionLetters : List Char := ['e', 'E', 'f', 'F', 'g', 'G', '%']

/-- Whether digit groups can be separated under a presentation. -/
def separable (separator presentation : Char) : Bool :=
  presentation ∈ 'd' :: fractionLetters ||
    (separator = '_' && presentation ∈ ['b', 'o', 'x', 'X'])

/-- A separator needs a presentation with digit groups; `letter` is the one taken when
none is given. -/
def separatorFault? (l : FieldLayout) (letter : Option Char) : Option LayoutFault :=
  match l.separator, l.presentation.or letter with
  | some separator, some presentation =>
      if separable separator presentation then none
      else some (.separator separator presentation)
  | _, _ => none

def numberFault? (l : FieldLayout) : Option LayoutFault :=
  match l.separatorFault? none with
  | some fault => some fault
  | none =>
      match l.presentation with
      | some letter =>
          if letter ∈ 'n' :: fractionLetters then tooLarge else some (.presentation letter .number)
      | none => tooLarge
where
  /-- A precision can be too large. -/
  tooLarge : Option LayoutFault :=
    if maxPrecision < l.precision.getD 0 then some .precisionTooLarge else none

def textFault? (l : FieldLayout) : Option LayoutFault :=
  match l.separatorFault? (some 's') with
  | some fault => some fault
  | none =>
      if l.presentation.getD 's' ≠ 's' then
        some (.presentation (l.presentation.getD 's') .text)
      else if l.sign = some ' ' then some (.numeric "Space")
      else if l.sign.isSome then some (.numeric "Sign")
      else if l.noNegativeZero then some (.numeric "Negative zero coercion (z)")
      else if l.alternate then some (.numeric "Alternate form (#)")
      else if l.alignment = some '=' then some (.numeric "'=' alignment")
      else none

end FieldLayout

namespace Content

def name : Content → String
  | number => "float"
  | text => "str"
  | other => "object"

/-- Why a content does not accept a layout.  The empty layout is always accepted. -/
def fault? (content : Content) (layout : List Char) : Option LayoutFault :=
  if layout.isEmpty then none
  else
    match content with
    | number =>
        match FieldLayout.read number layout with
        | .ok l => l.numberFault?
        | .error fault => some fault
    | text =>
        match FieldLayout.read text layout with
        | .ok l => l.textFault?
        | .error fault => some fault
    | other => some .refused

end Content

/-- A character that a message names: by its code unless it is visible and ASCII. -/
def namedChar (c : Char) : String :=
  if 32 < c.toNat ∧ c.toNat < 128 then String.singleton c
  else "\\x" ++ String.ofList (Nat.toDigits 16 c.toNat)

def LayoutFault.message : LayoutFault → String
  | tooManyDigits => "Too many decimal digits in format string"
  | bothSeparators => "Cannot specify both ',' and '_'."
  | noPrecision => "Format specifier missing precision"
  | precisionTooLarge => "precision too big"
  | unreadable layout content =>
      "Invalid format specifier '" ++ String.ofList layout ++ "' for object of type '" ++
        content.name ++ "'"
  | separator mark letter =>
      "Cannot specify '" ++ String.singleton mark ++ "' with '" ++ namedChar letter ++ "'."
  | presentation letter content =>
      "Unknown format code '" ++ namedChar letter ++ "' for object of type '" ++
        content.name ++ "'"
  | numeric part => part ++ " not allowed in string format specifier"
  | refused => "No layout accepted"

end SciCalc.Text
