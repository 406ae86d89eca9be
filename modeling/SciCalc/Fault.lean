/-
# SciCalc.Fault -- everything that can go wrong, and what is said about it

Faults are causes: each constructor holds what its message needs.  `Fault.kind` sorts
them, and the kinds fall into families.

* Turning text into a number fails with an evaluation fault (`Kind.isEvaluation`).
* Solving and integrating have faults of their own (`isSolving`, `isIntegrating`).
  An evaluation fault met on the way is reported as one of these, under a heading that
  says on what occasion, and with the fault itself as its cause (`wrapped`).  A heading
  that names a variable is a template: one with braces can have no filling, and the
  fault is then that of the template.
* Together with the calculator's own, these are the faults that are reported to a
  user, one message for each (`isReported`).
* The other kinds are limits of the arithmetic underneath (a sum, a count or a rounded
  value out of range, a zero divisor, halvings nested too deeply), look-ups of names that
  no table has, and faults of templates.
-/
import SciCalc.Number.Count
import SciCalc.Number.Notation
import SciCalc.Quadrature.Failure
import SciCalc.Root.Failure
import SciCalc.Text.Template

namespace SciCalc

set_option autoImplicit false

open SciCalc.Number (CountFault general shortest)

/-- The numerical tasks that report evaluation faults as their own. -/
inductive Layer
  | solving
  | integrating
deriving DecidableEq, Repr

inductive Occasion
  | parsing (expression : String)
  | evaluating (name : String) (point : Float)
deriving DecidableEq

inductive Fault
  /-- No lexeme begins the rest of the text. -/
  | unreadable (rest : String)
  /-- A number has a digit without a value. -/
  | unreadNumber (text : String)
  | mismatchedParens
  | commaOutsideParens
  | commaOutsideCall
  | wrongArguments (function : String) (arity given : Nat)
  | missingOperands (consumer : String) (needed found : Nat)
  | leftOver (items : Nat)
  | unknownConstant (name : String)
  | unknownOperator (symbol : String)
  | unknownFunction (name : String)
  | misplaced (token : String)
  | undefinedVariable (name : String)
  | outsideDomain (name : String) (arguments : List Float)
  | powerOutsideDomain (base exponent : Float)
  | notCountable (name : String) (x : Float)
  | divisionByZero
  /-- A function has no value at an argument, found before any domain is named. -/
  | noValue
  | count (cause : CountFault)
  /-- A rounded value is too large. -/
  | roundedTooLarge
  /-- A table has no entry of that name. -/
  | noEntry (name : String)
  | unknownUnit (name : String)
  /-- A stack was popped or read while empty. -/
  | emptyStack
  | unknownRegister (name : String)
  | secondEquals (text : String)
  | unknownMethod (name : String)
  | root (cause : Root.Trouble Float)
  | quadrature (cause : Quadrature.Trouble Float)
  /-- An evaluation fault met by a numerical task. -/
  | wrapped (layer : Layer) (heading : String) (cause : Fault)
  /-- The heading of an evaluation fault could not be filled in. -/
  | template (cause : Text.TemplateFault)
deriving DecidableEq

inductive Kind
  | malformed
  | evaluation
  | arity
  | undefined
  | domain
  | division
  | solving
  | noSignChange
  | flatDerivative
  | notConverged
  | integrating
  | nonFinite
  | calculation
  | value
  | key
  | range
  | zeroDivisor
  | index
  | missingPart
  | mismatch
  | nesting
deriving DecidableEq, Repr

namespace Kind

/-- Whether turning text into a number failed. -/
def isEvaluation : Kind → Bool
  | malformed | evaluation | arity | undefined | domain | division => true
  | _ => false

def isSolving : Kind → Bool
  | solving | noSignChange | flatDerivative | notConverged => true
  | _ => false

def isIntegrating : Kind → Bool
  | integrating | nonFinite => true
  | _ => false

/-- Whether a fault is reported to a user by its message alone. -/
def isReported (k : Kind) : Bool :=
  k.isEvaluation || k.isSolving || k.isIntegrating || k == calculation

end Kind

namespace Number.PartFault

def kind : PartFault → Kind
  | noParts => .zeroDivisor
  | tooMany => .range

def message : PartFault → String
  | noParts => "No parts"
  | tooMany => "Too many parts"

end Number.PartFault

namespace Root.Trouble

def kind {α : Type} : Trouble α → Kind
  | noSignChange .. => .noSignChange
  | flatDerivative _ | equalValues .. => .flatDerivative
  | leftDomain .. | notConverged .. => .notConverged
  | boundsRequired => .solving
  | zeroDivisor => .zeroDivisor
  | parts cause => cause.kind

def message : Trouble Float → String
  | noSignChange a fa b fb =>
      "Function must have different signs at bounds: f(" ++ general a ++ ") = " ++ general fa ++
        ", f(" ++ general b ++ ") = " ++ general fb
  | flatDerivative x =>
      "Derivative too small at x = " ++ general x ++ ", Newton's method failed"
  | equalValues x₀ x₁ =>
      "Division by zero in secant method: f(" ++ general x₀ ++ ") == f(" ++ general x₁ ++ ")"
  | leftDomain x fx =>
      "Newton iteration left the domain: f(" ++ general x ++ ") = " ++ shortest fx
  | notConverged method limit =>
      method.title ++ " method did not converge in " ++ toString limit ++ " iterations"
  | boundsRequired => "Bisection requires bounds (a, b)"
  | zeroDivisor => "Zero divisor"
  | parts cause => cause.message

end Root.Trouble

namespace Quadrature.Trouble

def kind {α : Type} : Trouble α → Kind
  | infiniteBounds | noPanels _ => .integrating
  | nonFinite .. => .nonFinite
  | sumOverflow => .range
  | tooDeep => .nesting
  | parts cause => cause.kind

def message : Trouble Float → String
  | infiniteBounds => "Integration bounds must be finite"
  | noPanels count => "Need at least one panel, got " ++ toString count
  | nonFinite y x =>
      "Function returned non-finite value " ++ shortest y ++ " at x = " ++ general x
  | sumOverflow => "Sum out of range"
  | tooDeep => "Halvings nested too deeply"
  | parts cause => cause.message

end Quadrature.Trouble

/-- What a message says of the occasion.  The name of a variable stands in a template
that is filled with the point. -/
def Occasion.heading : Occasion → Except Text.TemplateFault String
  | parsing expression => .ok ("Cannot parse " ++ Text.quoted expression)
  | evaluating name point => do
      let template := "Cannot evaluate at " ++ name ++ "=\x7b\x7d"
      return String.ofList (← Text.fill (shortest point).toList template.toList)

/-- A name without braces is named as it is. -/
theorem Occasion.heading_evaluating (name : String) (point : Float)
    (plain : ∀ c ∈ name.toList, c ≠ '\x7b' ∧ c ≠ '\x7d') :
    (evaluating name point).heading =
      .ok ("Cannot evaluate at " ++ name ++ "=" ++ shortest point) := by
  have split : ("Cannot evaluate at " ++ name ++ "=\x7b\x7d").toList =
      ("Cannot evaluate at " ++ name ++ "=").toList ++ ['\x7b', '\x7d'] := by
    simp
  have fixed : ("Cannot evaluate at ".toList ++ "=".toList).all
      (fun c => c ≠ '\x7b' && c ≠ '\x7d') = true := by
    rfl
  have front : ∀ c ∈ ("Cannot evaluate at " ++ name ++ "=").toList, c ≠ '\x7b' ∧ c ≠ '\x7d' := by
    intro c inside
    have outer (given : c ∈ "Cannot evaluate at ".toList ++ "=".toList) :
        c ≠ '\x7b' ∧ c ≠ '\x7d' := by
      have := List.all_eq_true.mp fixed c given
      rwa [Bool.and_eq_true, decide_eq_true_iff, decide_eq_true_iff] at this
    rw [String.toList_append, String.toList_append, List.mem_append, List.mem_append] at inside
    rcases inside with (first | middle) | last
    · exact outer (List.mem_append_left _ first)
    · exact plain c middle
    · exact outer (List.mem_append_right _ last)
  rw [heading, split, Text.fill_append _ _ front]
  simp only [bind, Except.bind, pure, Except.pure, String.ofList_append, String.ofList_toList]

/-- Templates fail by what they look for in vain, and otherwise by how they are written. -/
def Text.TemplateFault.kind : Text.TemplateFault → Kind
  | noWord _ => .key
  | noPlace _ => .index
  | noPart _ => .missingPart
  | noItems | layout .refused => .mismatch
  | _ => .value

namespace Fault

open Root (Method)

def kind : Fault → Kind
  | unreadable _ | mismatchedParens | commaOutsideParens | commaOutsideCall => .malformed
  | wrongArguments .. | missingOperands .. => .arity
  | leftOver _ | unknownConstant _ | unknownOperator _ | unknownFunction _ | misplaced _ =>
      .evaluation
  | undefinedVariable _ => .undefined
  | outsideDomain .. | powerOutsideDomain .. | notCountable .. => .domain
  | divisionByZero => .division
  | unreadNumber _ | noValue | unknownUnit _ => .value
  | count _ | roundedTooLarge => .range
  | noEntry _ => .key
  | emptyStack => .index
  | unknownRegister _ | secondEquals _ => .calculation
  | unknownMethod _ => .solving
  | root cause => cause.kind
  | quadrature cause => cause.kind
  | wrapped .solving _ _ => .solving
  | wrapped .integrating _ _ => .integrating
  | template cause => cause.kind

def message : Fault → String
  | unreadable rest => "Couldn't lex " ++ rest
  | unreadNumber text => "could not convert string to float: " ++ Text.quoted text
  | mismatchedParens => "Mismatched parentheses"
  | commaOutsideParens => "Comma outside of parentheses"
  | commaOutsideCall => "Comma outside of a function call"
  | wrongArguments function arity given =>
      function ++ " takes " ++ toString arity ++ " argument(s), got " ++ toString given
  | missingOperands consumer needed found =>
      "Insufficient operands for " ++ consumer ++ ": needs " ++ toString needed ++ ", have " ++
        toString found
  | leftOver items => "Invalid expression: stack has " ++ toString items ++ " items"
  | unknownConstant name => "Unknown constant: " ++ name
  | unknownOperator symbol => "Unknown operator: " ++ symbol
  | unknownFunction name => "Unknown function: " ++ name
  | misplaced token => "Unexpected " ++ token ++ " in RPN"
  | undefinedVariable name => "Undefined variable: " ++ name
  | outsideDomain name arguments =>
      "Invalid domain for " ++ name ++ ": " ++ ", ".intercalate (arguments.map general)
  | powerOutsideDomain base exponent =>
      "Invalid domain for ^: " ++ general base ++ "^" ++ general exponent
  | notCountable name x => name ++ " requires non-negative integers, got " ++ general x
  | divisionByZero => "Division by zero"
  | noValue => "Outside the domain"
  | count cause => cause.message
  | roundedTooLarge => "Rounded value out of range"
  | noEntry name => "No entry for " ++ Text.quoted name
  | unknownUnit name => "Unknown angle unit: " ++ name
  | emptyStack => "Empty stack"
  | unknownRegister name => "Invalid memory register: " ++ name
  | secondEquals text => "More than one = in " ++ text
  | unknownMethod name =>
      "Unknown method " ++ Text.quoted name ++ ", expected one of " ++
        ", ".intercalate (Method.all.map Method.name)
  | root cause => cause.message
  | quadrature cause => cause.message
  | wrapped _ heading cause => heading ++ ": " ++ cause.message
  | template cause => cause.message

def cause? : Fault → Option Fault
  | wrapped _ _ cause => some cause
  | _ => none

/-- The fault that a task makes of an evaluation fault; others stay what they are. -/
def wrapIn (layer : Layer) (occasion : Occasion) (fault : Fault) : Fault :=
  if fault.kind.isEvaluation then
    match occasion.heading with
    | .ok heading => wrapped layer heading fault
    | .error cause => template cause
  else fault

end Fault

def Root.Failure.fault : Root.Failure Float Fault → Fault
  | sample cause => cause
  | trouble cause => .root cause

def Quadrature.Failure.fault : Quadrature.Failure Float Fault → Fault
  | sample cause => cause
  | trouble cause => .quadrature cause

end SciCalc
