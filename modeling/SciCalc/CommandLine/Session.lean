/-
# SciCalc.CommandLine.Session -- a run of the program

A run goes through the lines it is given, trimmed, empty ones left out, with one
calculator.  A line is evaluated, solved or integrated, its result is stored if the
line asks for it, and printed, rounded if the run asks for it.  A fault is reported
on standard error and the run goes on with the next line; only a fault that is not
meant for users, or a result that cannot be rounded, ends it.

A store that fails comes after the computation, whose value has become the last
answer by then; the value is not printed.

Notes go to standard error too: warnings always, the rest if the run is verbose.
-/
import SciCalc.Calculator.Basic
import SciCalc.CommandLine.Options
import SciCalc.CommandLine.Store
import SciCalc.Number.Places

namespace SciCalc.CommandLine

set_option autoImplicit false

open SciCalc.Syntax (Token)

/-- What a run has written, and the fault that ended it early. -/
structure Output where
  out : String
  err : String
  raised : Option Fault

namespace Output

def empty : Output := ⟨"", "", none⟩

def print (o : Output) (text : String) : Output := { o with out := o.out ++ text ++ "\n" }

def complain (o : Output) (text : String) : Output := { o with err := o.err ++ text ++ "\n" }

def showNotes (o : Output) (verbose : Bool) (notes : List Note) : Output :=
  (notes.filter fun n => verbose || n.level = .warning).foldl (fun o n => o.complain n.line) o

/-- A fault is reported, or ends the run. -/
def fault (o : Output) (verbose : Bool) (f : Fault) : Output :=
  if f.kind.isReported then (o.complain f.message).showNotes verbose [.failed]
  else { o with raised := some f }

end Output

structure Session where
  calculator : Calculator
  output : Output

/-- The result of an expression, and the calculator that has computed it. -/
def compute (o : Options) (c : Calculator) (expression : String) : Calc (Float × Calculator) :=
  match o.solveFor, o.integrateOver with
  | some name, _ =>
      c.solve expression name o.guess { method := o.method.name, bounds := o.bounds }
  | none, some (a, b) =>
      c.integrate expression o.argument a b Quadrature.defaultTolerance Quadrature.defaultDepth
  | none, none => c.evaluate expression

def resultText (o : Options) (value : Float) : Except Fault String :=
  match o.precision with
  | none => .ok (Number.shortest value)
  | some places =>
      match Number.roundTo? value places with
      | some rounded => .ok (Number.shortest rounded)
      | none => .error .roundedTooLarge

/-- Store a result where a line asks for it. -/
def keep (c : Calculator) (register : Option String) (value : Float) : Calc Calculator :=
  match register with
  | some name => c.store name value
  | none => return c

def executeLine (o : Options) (s : Session) (line : String) : Session :=
  let (front, word) := splitStore line.toList
  let computed := compute o s.calculator (String.ofList front)
  let output := s.output.showNotes o.verbose computed.notes
  match computed.outcome with
  | .error f => { s with output := output.fault o.verbose f }
  | .ok (value, calculator) =>
      let kept := keep calculator (word.map String.ofList) value
      let output := output.showNotes o.verbose kept.notes
      match kept.outcome with
      | .error f => ⟨calculator, output.fault o.verbose f⟩
      | .ok calculator =>
          match resultText o value with
          | .ok text => ⟨calculator, output.print text⟩
          | .error f => ⟨calculator, { output with raised := some f }⟩

/-- Print the tokens of one line, and in postfix order. -/
def dumpLine (o : Options) (output : Output) (line : String) : Output :=
  let read := Syntax.tokenize (!o.lenient) line
  let output := output.showNotes o.verbose read.notes
  match read.outcome.bind fun tokens => (Syntax.toPostfix tokens).map (tokens, ·) with
  | .ok (tokens, ordered) => output.print (Token.joined tokens ++ "\t" ++ Token.joined ordered)
  | .error f => output.fault o.verbose f

def inputLines (input : String) : List String := input.splitOn "\n"

/-- The lines of a run, trimmed, without the empty ones. -/
def linesOf (o : Options) (input : String) : List String :=
  let given := o.expressions.getD (inputLines input)
  (given.map fun line => String.ofList (Text.trimMargin line.toList)).filter (!·.isEmpty)

/-- Carry out lines until a fault ends the run. -/
def executeAll (o : Options) (s : Session) : List String → Session
  | [] => s
  | line :: lines =>
      let after := executeLine o s line
      if after.output.raised.isSome then after else executeAll o after lines

/-- Dump lines until a fault ends the run. -/
def dumpAll (o : Options) (output : Output) : List String → Output
  | [] => output
  | line :: lines =>
      let after := dumpLine o output line
      if after.raised.isSome then after else dumpAll o after lines

/-- The spellings of one kind of lexeme, for the grammar. -/
def spellings (title : String) (names : List String) : String :=
  title ++ ": " ++ " ".intercalate names

def grammarLines : List String :=
  [spellings "function" (Syntax.Fn.names.map Prod.fst),
   spellings "constant" (Syntax.constants.map Prod.fst),
   "number: digits with at most one point",
   spellings "operator" (Syntax.Operation.symbols.map Prod.fst),
   spellings "group" ["(", ")", ","],
   spellings "variable" [Syntax.answerName, "A-Z", "a-z"]]

def perform (o : Options) (input : String) : Output :=
  match o.task with
  | .execute =>
      (executeAll o ⟨Calculator.new o.unit (!o.lenient), Output.empty⟩ (linesOf o input)).output
  | .dump => dumpAll o (Output.empty.print "[tokens]\t[rpn]") (linesOf o input)
  | .showGrammar => grammarLines.foldl Output.print Output.empty

inductive Result
  | rejected
  | help
  | done (output : Output)

/-- A run of the program on its arguments and standard input. -/
def run (arguments : List String) (input : String) : Result :=
  match Options.ofArguments arguments with
  | .ok o => .done (perform o input)
  | .error .rejected => .rejected
  | .error .help => .help

end SciCalc.CommandLine
