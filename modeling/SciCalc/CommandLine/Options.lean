/-
# SciCalc.CommandLine.Options -- the words of a command line

Options have a long name and most of them a letter.  They take no value, one, two,
at most one, or all words that follow.  Words that follow an option are its values
only if they look like values (`Word.value`); a word that begins with a dash looks
like an option unless it is a negative number, holds a space, or is the dash alone.

* A long name can be cut short as long as only one option fits.
* An option is joined to its value by `=`, and a letter also directly.  What is joined
  to a letter without a value are further letters, however it is joined, and the last
  letter of such a cluster can have its value joined to it directly.
* `--` ends what an option can take; the words behind it are all values.  No option
  of this program takes them, so they are refused like any other word left over.

What a word is gets decided for all words in front of `--` before any of them counts,
so a name cut too short is refused wherever it stands.
-/
import SciCalc.Evaluation.Angle
import SciCalc.Root.Failure
import SciCalc.Text.Numeral

namespace SciCalc.CommandLine

set_option autoImplicit false

inductive Switch
  | help
  | verbose
  | angle
  | lenient
  | precision
  | solve
  | integrate
  | guess
  | bounds
  | method
  | argument
  | expression
  | prompt
  | grammar
  | dump
deriving DecidableEq, Repr

inductive Takes
  | nothing
  | one
  | two
  | atMostOne
  | everything
deriving DecidableEq, Repr

namespace Switch

def all : List Switch :=
  [help, verbose, angle, lenient, precision, solve, integrate, guess, bounds, method, argument,
   expression, prompt, grammar, dump]

def letter? : Switch → Option Char
  | help => some 'h'
  | verbose => some 'v'
  | angle => some 'a'
  | lenient => some 'l'
  | precision => some 'k'
  | solve => some 's'
  | integrate => some 'i'
  | expression => some 'e'
  | prompt => some 'p'
  | grammar => some 'G'
  | dump => some 'D'
  | guess | bounds | method | argument => none

def longName : Switch → String
  | help => "--help"
  | verbose => "--verbose"
  | angle => "--angle"
  | lenient => "--lenient"
  | precision => "--precision"
  | solve => "--solve"
  | integrate => "--integrate"
  | guess => "--guess"
  | bounds => "--bounds"
  | method => "--method"
  | argument => "--variable"
  | expression => "--expression"
  | prompt => "--prompt"
  | grammar => "--raw-grammar"
  | dump => "--dump"

def takes : Switch → Takes
  | help | verbose | lenient | grammar | dump => .nothing
  | angle | precision | solve | guess | method | argument => .one
  | integrate | bounds => .two
  | prompt => .atMostOne
  | expression => .everything

def ofLetter? (c : Char) : Option Switch := all.find? (·.letter? == some c)

/-- The options that cannot be given together with this one. -/
def excludes : Switch → List Switch
  | solve => [integrate]
  | integrate => [solve]
  | expression => [prompt]
  | prompt => [expression]
  | grammar => [dump]
  | dump => [grammar]
  | _ => []

end Switch

/-- A word that names an option: which, if any, whether by its letter, and what is
joined to it. -/
structure Named where
  switch : Option Switch
  byLetter : Bool
  joined : Option (List Char)
deriving DecidableEq, Repr

/-- What a word of the command line is. -/
inductive Word
  | value (text : String)
  | option (named : Named)
  /-- Two dashes. -/
  | separator
deriving DecidableEq, Repr

/-- How a command line can end before it is carried out. -/
inductive Refusal
  | rejected
  | help
deriving DecidableEq, Repr

/-- Whether a word is a dash and a number without an exponent, possibly with a line
feed behind. -/
def isNegativeNumber (word : List Char) : Bool :=
  match word with
  | '-' :: digits =>
      let digits := if digits.getLast? = some '\n' then digits.dropLast else digits
      let whole := digits.takeWhile Text.isDigit
      match digits.dropWhile Text.isDigit with
      | [] => !whole.isEmpty
      | '.' :: fraction => !fraction.isEmpty && fraction.all Text.isDigit
      | _ => false
  | _ => false

/-- The part of a word in front of its first `=`, and the part behind, if it has one. -/
def splitEquals (word : List Char) : List Char × Option (List Char) :=
  match word.dropWhile (· ≠ '=') with
  | [] => (word, none)
  | _ :: behind => (word.takeWhile (· ≠ '='), some behind)

/-- The option that a word spells in full. -/
def spelled? (word : List Char) : Option (Switch × Bool) :=
  match word with
  | ['-', c] => (Switch.ofLetter? c).map (·, true)
  | _ => (Switch.all.find? (·.longName.toList == word)).map (·, false)

/-- The options that a word beginning with a dash can mean without spelling one in
full. -/
def candidates (word : List Char) : List Named :=
  match word with
  | '-' :: '-' :: _ =>
      let (front, behind) := splitEquals word
      (Switch.all.filter fun s => front.isPrefixOf s.longName.toList).map fun s =>
        ⟨some s, false, behind⟩
  | '-' :: c :: joined =>
      match Switch.ofLetter? c with
      | some s => [⟨some s, true, some joined⟩]
      | none => []
  | _ => []

/-- What a word in front of `--` is. -/
def classify (word : String) : Except Refusal Word :=
  let cs := word.toList
  if cs.head? ≠ some '-' then .ok (.value word)
  else
    match spelled? cs with
    | some (s, byLetter) => .ok (.option ⟨some s, byLetter, none⟩)
    | none =>
        if cs.length = 1 then .ok (.value word)
        else
          let (front, behind) := splitEquals cs
          match behind, spelled? front with
          | some joined, some (s, byLetter) => .ok (.option ⟨some s, byLetter, some joined⟩)
          | _, _ =>
              match candidates cs with
              | [named] => .ok (.option named)
              | _ :: _ => .error .rejected
              | [] =>
                  if isNegativeNumber cs || cs.contains ' ' then .ok (.value word)
                  else .ok (.option ⟨none, false, none⟩)

def classifyAll : List String → Except Refusal (List Word)
  | [] => .ok []
  | word :: words =>
      if word = "--" then .ok (.separator :: words.map Word.value)
      else do
        let first ← classify word
        let rest ← classifyAll words
        return first :: rest

/-- How many of the words that follow an option it takes; none if too few. -/
def Takes.count? (t : Takes) (following : List Word) : Option Nat :=
  match t, following with
  | .nothing, _ => some 0
  | .one, .value _ :: _ => some 1
  | .one, _ => none
  | .two, .value _ :: .value _ :: _ => some 2
  | .two, _ => none
  | .atMostOne, .value _ :: _ => some 1
  | .atMostOne, _ => some 0
  | .everything, _ => some (following.takeWhile (· ≠ .separator)).length

structure Setting where
  switch : Switch
  values : List String
deriving DecidableEq, Repr

/-- What a word that names an option comes to. -/
structure Resolved where
  settings : List Setting
  /-- How many of the words that follow are taken. -/
  taken : Nat
deriving DecidableEq, Repr

/-- An option without anything joined to it. -/
def resolvePlain (following : List (String × Word)) (s : Switch) : Except Refusal Resolved :=
  match s.takes.count? (following.map Prod.snd) with
  | some n => .ok ⟨[⟨s, (following.take n).map Prod.fst⟩], n⟩
  | none => .error .rejected

/-- An option with something joined to it: its value or, for a letter without a value,
further letters. -/
def resolveJoined (following : List (String × Word)) (s : Switch) (byLetter : Bool)
    (joined : List Char) : Except Refusal Resolved :=
  match s.takes with
  | .one | .atMostOne | .everything => .ok ⟨[⟨s, [String.ofList joined]⟩], 0⟩
  | .two => .error .rejected
  | .nothing =>
      match joined with
      | [] => .error .rejected
      | c :: rest =>
          match (if byLetter then Switch.ofLetter? c else none) with
          | none => .error .rejected
          | some next => do
              let further ← match rest with
                | [] => resolvePlain following next
                | c' :: rest' => resolveJoined following next true (c' :: rest')
              return { further with settings := ⟨s, []⟩ :: further.settings }

/-- What an option comes to, given the words that follow it. -/
def resolve (following : List (String × Word)) (s : Switch) (n : Named) :
    Except Refusal Resolved :=
  match n.joined with
  | none => resolvePlain following s
  | some joined => resolveJoined following s n.byLetter joined

/-- What is to be done with each line. -/
inductive Task
  | execute
  | dump
  | showGrammar
deriving DecidableEq, Repr

structure Options where
  verbose : Bool := false
  unit : AngleUnit := .degrees
  lenient : Bool := false
  precision : Option Int := none
  solveFor : Option String := none
  integrateOver : Option (Float × Float) := none
  guess : Option Float := none
  bounds : Option (Float × Float) := none
  method : Root.Method := .brent
  argument : String := "x"
  expressions : Option (List String) := none
  prompt : Option String := none
  task : Task := .execute

/-- The prompt of a session at a terminal. -/
def defaultPrompt : String := "> "

def orReject {α : Type} : Option α → Except Refusal α
  | some a => .ok a
  | none => .error .rejected

def range? : List String → Option (Float × Float)
  | [a, b] => do return (← Text.Numeral.float? a, ← Text.Numeral.float? b)
  | _ => none

def Options.apply (o : Options) (s : Setting) : Except Refusal Options :=
  let word := s.values.headD ""
  match s.switch with
  | .help => .error .help
  | .verbose => .ok { o with verbose := true }
  | .angle => do return { o with unit := ← orReject (AngleUnit.ofName? word) }
  | .lenient => .ok { o with lenient := true }
  | .precision => do return { o with precision := some (← orReject (Text.Numeral.int? word)) }
  | .solve => .ok { o with solveFor := some word }
  | .integrate => do return { o with integrateOver := some (← orReject (range? s.values)) }
  | .guess => do return { o with guess := some (← orReject (Text.Numeral.float? word)) }
  | .bounds => do return { o with bounds := some (← orReject (range? s.values)) }
  | .method => do return { o with method := ← orReject (Root.Method.ofName? word) }
  | .argument => .ok { o with argument := word }
  | .expression => .ok { o with expressions := some s.values }
  | .prompt => .ok { o with prompt := some (s.values.headD defaultPrompt) }
  | .grammar => .ok { o with task := .showGrammar }
  | .dump => .ok { o with task := .dump }

/-- Options made so far, the switches seen, and whether a word was left over. -/
structure Progress where
  options : Options
  seen : List Switch
  leftOver : Bool

/-- Make a setting, unless a switch seen before excludes it. -/
def Progress.apply (p : Progress) (s : Setting) : Except Refusal Progress := do
  let excluded := s.switch.excludes.any p.seen.contains
  let options ← match p.options.apply s with
    | .ok options => pure options
    | .error refusal => throw (if excluded then .rejected else refusal)
  if excluded then throw .rejected
  return { p with options := options, seen := s.switch :: p.seen }

/-- Go through the words behind the first `passed` ones. -/
def Progress.through (p : Progress) : Nat → List (String × Word) → Except Refusal Progress
  | _, [] => .ok p
  | passed + 1, _ :: words => p.through passed words
  | 0, (_, .option named) :: words =>
      match named.switch with
      | none => through { p with leftOver := true } 0 words
      | some s => do
          let resolved ← resolve words s named
          let after ← resolved.settings.foldlM Progress.apply p
          through after resolved.taken words
  | 0, _ :: words => through { p with leftOver := true } 0 words

/-- The options that the words of a command line ask for. -/
def Options.ofArguments (arguments : List String) : Except Refusal Options := do
  let words ← classifyAll arguments
  let p ← Progress.through ⟨{}, [], false⟩ 0 (arguments.zip words)
  if p.leftOver then throw .rejected else return p.options

end SciCalc.CommandLine
