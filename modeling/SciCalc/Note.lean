/-
# SciCalc.Note -- what a computation tells while it runs

Notes are values like faults; `Note.line` renders one as a line of a log, with its
level and the part of the library that made it.  All notes are details for a reader
who asked for them, except that a character was skipped, which is a warning.
-/
import SciCalc.Fault
import SciCalc.Report
import SciCalc.Syntax.Token

namespace SciCalc

set_option autoImplicit false

open SciCalc.Number (general shortest)
open SciCalc.Syntax (Token)

inductive Level
  | debug
  | warning
deriving DecidableEq, Repr

def Level.name : Level → String
  | debug => "DEBUG"
  | warning => "WARNING"

inductive Part
  | lexer
  | parser
  | machine
  | solver
  | integration
  | calculator
  | commandLine
deriving DecidableEq, Repr

def Part.name : Part → String
  | lexer => "lexer"
  | parser => "parser"
  | machine => "machine"
  | solver => "solver"
  | integration => "integration"
  | calculator => "calculator"
  | commandLine => "cli"

inductive Note
  | skipped (c : Char) (text : String)
  | tokens (tokens : List Token)
  | postfixOrder (tokens : List Token)
  | evaluated (expression : String) (value : Float)
  | solving (expression name : String) (method : Root.Method)
  | root (event : Root.Event Float Fault)
  | quadrature (event : Quadrature.Event Float Fault)
  | stored (value : Float) (register : String)
  | failed
deriving DecidableEq

namespace Note

def level : Note → Level
  | skipped .. => .warning
  | _ => .debug

def part : Note → Part
  | skipped .. => .lexer
  | tokens _ | postfixOrder _ => .parser
  | evaluated .. => .machine
  | solving .. | root _ => .solver
  | quadrature _ => .integration
  | stored .. => .calculator
  | failed => .commandLine

/-- The ends of an interval with six significant digits. -/
def interval (a b : Float) : String := "[" ++ general a ++ ", " ++ general b ++ "]"

def rootText : Root.Event Float Fault → String
  | .converged method iterations =>
      method.title ++ " converged after " ++ toString iterations ++ " iterations"
  | .stopped bracket limit =>
      "Bisection stopped at [" ++ shortest bracket.a ++ ", " ++ shortest bracket.b ++ "] after " ++
        toString limit ++ " iterations"
  | .skippedWindow a b cause => "Skipping window " ++ interval a b ++ ": " ++ cause.message
  | .signChange a b => "Sign change found on " ++ interval a b
  | .noWindow guess reach =>
      "No sign change within " ++ toString reach ++ " of " ++ general guess ++
        ", falling back to Newton"
  | .unevaluable x cause => "Cannot evaluate at " ++ general x ++ ": " ++ cause.message
  | .skippedInterval a b cause => "Skipping " ++ interval a b ++ ": " ++ cause.fault.message

def quadratureText : Quadrature.Event Float Fault → String
  | .integral a b value => "Integral over " ++ interval a b ++ " = " ++ shortest value
  | .converged rows => "Romberg converged after " ++ toString rows ++ " rows"
  | .discontinuity x cause => "Discontinuity at " ++ general x ++ ": " ++ cause.fault.message

def text : Note → String
  | skipped c line =>
      "Skipping unknown character " ++ Text.quoted (String.singleton c) ++ " in " ++
        Text.quoted line
  | tokens ts => "Tokens: " ++ Token.joined ts
  | postfixOrder ts => "RPN: " ++ Token.joined ts
  | evaluated expression value => expression ++ " = " ++ shortest value
  | solving expression name method =>
      "Solving " ++ expression ++ " = 0 for " ++ name ++ " by " ++ method.name
  | root event => rootText event
  | quadrature event => quadratureText event
  | stored value register => "Stored " ++ shortest value ++ " in " ++ register
  | failed => "Failed"

/-- The note as a line of a log. -/
def line (n : Note) : String :=
  n.level.name ++ ":fxcalc." ++ n.part.name ++ ": " ++ n.text

end Note

/-- A computation of the library: it may make notes and may fail. -/
abbrev Calc (α : Type) := Report Note Fault α

end SciCalc
