import SciCalc.Number.Notation
import SciCalc.Number.Places
import SciCalc.Number.Scalar
import SciCalc.Number.Elementary
import SciCalc.Number.Count
import SciCalc.Quadrature.Simpson
import SciCalc.Quadrature.Singular
import SciCalc.Quadrature.Afresh
import SciCalc.Quadrature.Trapezoid
import SciCalc.Root.Search
import SciCalc.Syntax.Lexeme
import SciCalc.Syntax.Token
import SciCalc.Text.Numeral
import SciCalc.Text.Quoted
import SciCalc.Text.Upper
import SciCalc.Text.Word
import SciCalc.Syntax.Yard
import SciCalc.Evaluation.Sampler
import SciCalc.Calculator.Command
import SciCalc.CommandLine.Session
import SciCalc.Main
import SciCalc.Evaluation.Tree
import SciCalc.Syntax.Depth
import SciCalc.Syntax.Grouping
import SciCalc.Proofs.Syntax.Postfix
import SciCalc.Proofs.Evaluation.RuleFault
import SciCalc.Proofs.Evaluation.TreeValue
import SciCalc.Proofs.Evaluation.Bindings
import SciCalc.Proofs.Evaluation.Sampling
import SciCalc.Proofs.Number.Rational
import SciCalc.Proofs.Root.BrentBracket
import SciCalc.Proofs.Syntax.Splitting
import SciCalc.Proofs.Syntax.WrittenText
import SciCalc.Proofs.Syntax.ParseFault
import SciCalc.Proofs.Evaluation.EvaluationFault
import SciCalc.Proofs.Calculator.Consistency
import SciCalc.Proofs.Root.SampleCause
import SciCalc.Proofs.Quadrature.SampleCause
import SciCalc.Proofs.Quadrature.ErrorBudget
import SciCalc.Proofs.TaskFault
import SciCalc.Proofs.Number.Double
import SciCalc.Proofs.Root.Accepted
import SciCalc.Proofs.CommandLine.RefusedLine
import SciCalc.Proofs.Syntax.Grouping
import SciCalc.Proofs.Syntax.Sentence
import SciCalc.Proofs.Syntax.FirstFault
import SciCalc.Proofs.Syntax.Conservation
import SciCalc.Proofs.Evaluation.Misplaced
import SciCalc.Proofs.Quadrature.CarriedSamples
import SciCalc.Proofs.Quadrature.CubicExactness
import SciCalc.Proofs.Root.Halving
import SciCalc.Proofs.Quadrature.EvenPowers
import SciCalc.Proofs.Quadrature.RombergOrder
import SciCalc.Proofs.Syntax.Parenthesized
import SciCalc.Proofs.Calculator.EquationSides
import SciCalc.Proofs.Number.Packing
import SciCalc.Proofs.Number.Order
import SciCalc.Proofs.Root.Divisors
import SciCalc.Proofs.Root.AllRoots
import SciCalc.Proofs.Root.Windows
import SciCalc.Proofs.DefaultSolve
import SciCalc.Proofs.Evaluation.ShapeFault
import SciCalc.Proofs.Evaluation.Mentioned
import SciCalc.Proofs.Syntax.SignPosition
import SciCalc.Proofs.Syntax.Mismatched
import SciCalc.Proofs.Calculator.MalformedSide
import SciCalc.Proofs.Evaluation.OpenBinds
import SciCalc.Proofs.Root.BoundOrder
import SciCalc.Proofs.Syntax.Leniency
import SciCalc.Proofs.Root.Negation
import SciCalc.Proofs.SingularPoints
import SciCalc.Proofs.CommandLine.StoreSuffix
