/-
# SciCalc.Text.Template -- text with fields in braces

A template is text in which fields stand in braces; a brace that is text is doubled.
A field names its value first: by a place, by nothing, which takes the places one after
the other, or by a word.  From there steps can lead to a part of the value (`.real`) or
an item (`[0]`).  Behind `!` a letter turns the value into text, and behind `:` stands
its layout, which can hold fields of its own, but these no further ones.

Templates are filled with one number, which has the first place and no word.  A field
shows it as it is: its layout is checked and then passed over.  The templates of this
library end in a field that takes the next place and has no layout, so one with a field
in front of it has no filling at all, and what that field would look like is never seen.

The parts of a template are taken from left to right, and the first fault counts, be it
in the braces or in what they ask for.
-/
import SciCalc.Text.FieldLayout
import SciCalc.Text.Quoted

namespace SciCalc.Text

set_option autoImplicit false

inductive TemplateFault
  | loneOpening
  | loneClosing
  | openingInField
  | openField
  | openLayout
  | noConversion
  | colonExpected
  | unknownConversion (letter : Char)
  | tooManyDigits
  /-- A place is left out after one was given. -/
  | toAutomatic
  /-- A place is given after one was left out. -/
  | toManual
  | openBracket
  | afterBracket
  | emptyStep
  | tooDeep
  | layout (cause : LayoutFault)
  | noWord (word : String)
  | noPlace (place : Nat)
  | noPart (name : String)
  | noItems
deriving DecidableEq, Repr

structure Field where
  path : List Char
  conversion : Option Char
  layout : List Char
deriving DecidableEq, Repr

namespace Field

/-- What stands in front of the character that ends a field's path, that character, and
what follows.  Inside brackets everything but the closing one is passed over. -/
def splitPath : (bracketed : Bool) → List Char →
    Except TemplateFault (List Char × Char × List Char)
  | _, [] => .error .openField
  | bracketed, c :: cs =>
      if !bracketed && c = '\x7b' then .error .openingInField
      else if !bracketed && (c = '\x7d' || c = ':' || c = '!') then .ok ([], c, cs)
      else do
        let (path, stop, rest) ← splitPath (if bracketed then c ≠ ']' else c = '[') cs
        return (c :: path, stop, rest)

/-- A layout up to the closing brace of its field, with so many braces open inside it, and
what follows. -/
def splitLayout : (depth : Nat) → List Char → Except TemplateFault (List Char × List Char)
  | _, [] => .error .openLayout
  | depth, c :: cs =>
      if c = '\x7d' ∧ depth = 0 then .ok ([], cs)
      else do
        let inner := if c = '\x7b' then depth + 1 else if c = '\x7d' then depth - 1 else depth
        let (layout, rest) ← splitLayout inner cs
        return (c :: layout, rest)

/-- A field behind its opening brace, and what follows it. -/
def read (cs : List Char) : Except TemplateFault (Field × List Char) := do
  let (path, stop, rest) ← splitPath false cs
  if stop = '\x7d' then return (⟨path, none, []⟩, rest)
  else if stop = ':' then
    let (layout, rest) ← splitLayout 0 rest
    return (⟨path, none, layout⟩, rest)
  else
    match rest with
    | [] => throw .noConversion
    | letter :: '\x7d' :: rest => return (⟨path, some letter, []⟩, rest)
    | letter :: ':' :: rest =>
        let (layout, rest) ← splitLayout 0 rest
        return (⟨path, some letter, layout⟩, rest)
    | [_] => throw .openLayout
    | _ :: _ :: _ => throw .colonExpected

end Field

/-- A part of a template; a fault ends it. -/
inductive Segment
  | char (c : Char)
  | field (f : Field)
  | broken (fault : TemplateFault)
deriving DecidableEq, Repr

/-- The parts of a template after the first `passed` characters. -/
def segmentsAfter : (passed : Nat) → List Char → List Segment
  | _, [] => []
  | passed + 1, _ :: cs => segmentsAfter passed cs
  | 0, c :: cs =>
      if c = '\x7b' then
        match cs with
        | [] => [.broken .loneOpening]
        | next :: _ =>
            if next = c then .char c :: segmentsAfter 1 cs
            else
              match Field.read cs with
              | .ok (f, rest) => .field f :: segmentsAfter (cs.length - rest.length) cs
              | .error fault => [.broken fault]
      else if c = '\x7d' then
        if cs.head? = some c then .char c :: segmentsAfter 1 cs else [.broken .loneClosing]
      else .char c :: segmentsAfter 0 cs

def segments (template : List Char) : List Segment := segmentsAfter 0 template

/-- Text without braces stands in front of a template as it is. -/
theorem segments_append (text rest : List Char)
    (plain : ∀ c ∈ text, c ≠ '\x7b' ∧ c ≠ '\x7d') :
    segments (text ++ rest) = text.map .char ++ segments rest := by
  unfold segments
  induction text with
  | nil => rfl
  | cons c cs ih =>
      have first := plain c List.mem_cons_self
      have others := ih fun d inside => plain d (List.mem_cons_of_mem c inside)
      simp [segmentsAfter, first, others]

inductive Step
  | part (name : List Char)
  | item
  | broken (fault : TemplateFault)
deriving DecidableEq, Repr

def beginsStep (c : Char) : Bool := c = '.' || c = '['

/-- The place that some characters give: none if they are not digits. -/
def placeOf (cs : List Char) : Except TemplateFault (Option Nat) :=
  let digits := cs.takeWhile isDigit
  let place := Numeral.ofDigitsNat digits
  if maxCount < place then .error .tooManyDigits
  else .ok (if !cs.isEmpty && digits.length = cs.length then some place else none)

/-- The steps of a path after the first `passed` characters. -/
def stepsAfter : (passed : Nat) → List Char → List Step
  | _, [] => []
  | passed + 1, _ :: cs => stepsAfter passed cs
  | 0, c :: cs =>
      if c = '.' then
        let name := cs.takeWhile (!beginsStep ·)
        if name.isEmpty then [.broken .emptyStep] else .part name :: stepsAfter name.length cs
      else if c = '[' then
        let name := cs.takeWhile (· ≠ ']')
        if name.length = cs.length then [.broken .openBracket]
        else
          match placeOf name with
          | .error fault => [.broken fault]
          | .ok _ =>
              if name.isEmpty then [.broken .emptyStep]
              else .item :: stepsAfter (name.length + 1) cs
      else [.broken .afterBracket]

/-- The parts that every value has, besides its description. -/
def commonParts : List String :=
  ["__class__", "__delattr__", "__dir__", "__eq__", "__format__", "__ge__", "__getattribute__",
   "__getstate__", "__gt__", "__hash__", "__init__", "__init_subclass__", "__le__", "__lt__",
   "__ne__", "__new__", "__reduce__", "__reduce_ex__", "__repr__", "__setattr__", "__sizeof__",
   "__str__", "__subclasshook__"]

/-- What only a number has, besides its two coordinates. -/
def numberParts : List String :=
  ["__abs__", "__add__", "__bool__", "__ceil__", "__divmod__", "__float__", "__floor__",
   "__floordiv__", "__getformat__", "__getnewargs__", "__int__", "__mod__", "__mul__", "__neg__",
   "__pos__", "__pow__", "__radd__", "__rdivmod__", "__rfloordiv__", "__rmod__", "__rmul__",
   "__round__", "__rpow__", "__rsub__", "__rtruediv__", "__sub__", "__truediv__", "__trunc__",
   "as_integer_ratio", "conjugate", "fromhex", "hex", "is_integer"]

def textParts : List String :=
  ["__add__", "__contains__", "__getitem__", "__getnewargs__", "__iter__", "__len__", "__mod__",
   "__mul__", "__rmod__", "__rmul__", "capitalize", "casefold", "center", "count", "encode",
   "endswith", "expandtabs", "find", "format", "format_map", "index", "isalnum", "isalpha",
   "isascii", "isdecimal", "isdigit", "isidentifier", "islower", "isnumeric", "isprintable",
   "isspace", "istitle", "isupper", "join", "ljust", "lower", "lstrip", "maketrans", "partition",
   "removeprefix", "removesuffix", "replace", "rfind", "rindex", "rjust", "rpartition", "rsplit",
   "rstrip", "split", "splitlines", "startswith", "strip", "swapcase", "title", "translate",
   "upper", "zfill"]

/-- What a part of a content is.  Functions and types have more parts than those that are
told apart here: what can be called, and the names it has. -/
def Content.part? (content : Content) (name : String) : Option Content :=
  if name = "__doc__" then some .text
  else if name ∈ commonParts then some .other
  else
    match content with
    | .number =>
        if name = "real" ∨ name = "imag" then some .number
        else if name ∈ numberParts then some .other
        else none
    | .text => if name ∈ textParts then some .other else none
    | .other =>
        if name = "__name__" ∨ name = "__qualname__" then some .text
        else if name = "__call__" then some .other
        else none

def Step.apply (content : Content) : Step → Except TemplateFault Content
  | part name =>
      let name := String.ofList name
      match content.part? name with
      | some content => .ok content
      | none => .error (.noPart name)
  | item => .error .noItems
  | broken fault => .error fault

inductive Numbering
  | undecided
  | automatic (next : Nat)
  | manual
deriving DecidableEq, Repr

/-- The place of a field, given or left out, and the numbering behind it. -/
def Numbering.place (n : Numbering) (given : Option Nat) :
    Except TemplateFault (Nat × Numbering) :=
  match given, n with
  | none, .manual => .error .toAutomatic
  | none, .undecided => .ok (0, .automatic 1)
  | none, .automatic next => .ok (next, .automatic (next + 1))
  | some _, .automatic _ => .error .toManual
  | some place, _ => .ok (place, .manual)

/-- What a letter behind `!` makes of a content: text, if it is one of three. -/
def convert (content : Content) : Option Char → Except TemplateFault Content
  | none => .ok content
  | some letter =>
      if letter ∈ ['r', 's', 'a'] then .ok .text else .error (.unknownConversion letter)

/-- What a field holds, and the numbering behind it. -/
def Field.content (f : Field) (n : Numbering) : Except TemplateFault (Content × Numbering) := do
  let first := f.path.takeWhile (!beginsStep ·)
  let given ← placeOf first
  if given.isNone && !first.isEmpty then throw (.noWord (String.ofList first))
  let (place, n) ← n.place given
  if place ≠ 0 then throw (.noPlace place)
  let content ← (stepsAfter 0 (f.path.dropWhile (!beginsStep ·))).foldlM Step.apply .number
  let content ← convert content f.conversion
  return (content, n)

/-- The parts of a template filled with a number that is written `shown`, fields nested
in fields up to so many levels: the text, and the numbering behind it. -/
def fillSegments (shown : List Char) : (levels : Nat) → Numbering → List Segment →
    Except TemplateFault (List Char × Numbering)
  | 0, _, _ => .error .tooDeep
  | levels + 1, n, parts =>
      parts.foldlM (fun (text, n) part =>
        match part with
        | .char c => .ok (text ++ [c], n)
        | .broken fault => .error fault
        | .field f => do
            let (content, n) ← f.content n
            let (layout, n) ←
              if f.layout.contains '\x7b' then fillSegments shown levels n (segments f.layout)
              else .ok (f.layout, n)
            match content.fault? layout with
            | some fault => throw (.layout fault)
            | none => return (text ++ shown, n)) ([], n)

def maxLevels : Nat := 2

def fill (shown template : List Char) : Except TemplateFault (List Char) :=
  (fillSegments shown maxLevels .undecided (segments template)).map Prod.fst

theorem foldlM_char (text : List Char)
    (step : List Char × Numbering → Segment → Except TemplateFault (List Char × Numbering))
    (keeps : ∀ before n c, step (before, n) (.char c) = .ok (before ++ [c], n))
    (before : List Char) (n : Numbering) :
    (text.map .char).foldlM step (before, n) = .ok (before ++ text, n) := by
  induction text generalizing before with
  | nil => simp [pure, Except.pure]
  | cons c cs ih =>
      rw [List.map_cons, List.foldlM_cons, keeps]
      simpa [bind, Except.bind] using ih (before ++ [c])

/-- A template with a field of the next place at its end and no other brace is filled by
putting the number there. -/
theorem fill_append (shown text : List Char)
    (plain : ∀ c ∈ text, c ≠ '\x7b' ∧ c ≠ '\x7d') :
    fill shown (text ++ ['\x7b', '\x7d']) = .ok (text ++ shown) := by
  have last : segments ['\x7b', '\x7d'] = [.field ⟨[], none, []⟩] := by decide
  have filled : fillSegments shown maxLevels .undecided
      (text.map .char ++ [.field ⟨[], none, []⟩]) = .ok (text ++ shown, .automatic 1) := by
    unfold maxLevels fillSegments
    rw [List.foldlM_append, foldlM_char text _ (fun _ _ _ => rfl)]
    rfl
  rw [fill, segments_append text _ plain, last, filled]
  rfl

namespace TemplateFault

def message : TemplateFault → String
  | loneOpening => "Single '\x7b' encountered in format string"
  | loneClosing => "Single '\x7d' encountered in format string"
  | openingInField => "unexpected '\x7b' in field name"
  | openField => "expected '\x7d' before end of string"
  | openLayout => "unmatched '\x7b' in format spec"
  | noConversion => "end of string while looking for conversion specifier"
  | colonExpected => "expected ':' after conversion specifier"
  | unknownConversion letter => "Unknown conversion specifier " ++ namedChar letter
  | tooManyDigits => "Too many decimal digits in format string"
  | toAutomatic =>
      "cannot switch from manual field specification to automatic field numbering"
  | toManual => "cannot switch from automatic field numbering to manual field specification"
  | openBracket => "Missing ']' in format string"
  | afterBracket => "Only '.' or '[' may follow ']' in format field specifier"
  | emptyStep => "Empty attribute in format string"
  | tooDeep => "Max string recursion exceeded"
  | layout cause => cause.message
  | noWord word => quoted word
  | noPlace place => "No value at place " ++ toString place
  | noPart name => "No part " ++ quoted name
  | noItems => "No items"

end TemplateFault

end SciCalc.Text
