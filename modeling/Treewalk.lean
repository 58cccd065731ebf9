import Treewalk.Binary64
import Treewalk.Binary64.Shortest
import Treewalk.Cache
import Treewalk.Command
import Treewalk.Command.Arguments
import Treewalk.Command.Reading
import Treewalk.Document.Basic
import Treewalk.Document.Fault
import Treewalk.Document.Lexeme
import Treewalk.Document.Numeral
import Treewalk.Document.Printer
import Treewalk.Document.Reader
import Treewalk.Evaluator
import Treewalk.Expression
import Treewalk.Failure
import Treewalk.Interpreter
import Treewalk.Location
import Treewalk.Main
import Treewalk.Operator
import Treewalk.Operator.Apply
import Treewalk.Proofs.Binary64.Decimal
import Treewalk.Proofs.Binary64.Rounding
import Treewalk.Proofs.Document.Accepted
import Treewalk.Proofs.Document.Derived
import Treewalk.Proofs.Document.Grammar
import Treewalk.Proofs.Document.Lexeme
import Treewalk.Proofs.Document.Numeral
import Treewalk.Proofs.Document.Passes
import Treewalk.Proofs.Document.RoundTrip
import Treewalk.Proofs.Document.Spelling
import Treewalk.Proofs.Evaluation.Bookkeeping
import Treewalk.Proofs.Evaluation.CallIdentity
import Treewalk.Proofs.Evaluation.Confinement
import Treewalk.Proofs.Evaluation.Depth
import Treewalk.Proofs.Evaluation.Exec
import Treewalk.Proofs.Evaluation.Fibonacci
import Treewalk.Proofs.Evaluation.FirstHit
import Treewalk.Proofs.Evaluation.FirstOrder
import Treewalk.Proofs.Evaluation.History
import Treewalk.Proofs.Evaluation.Invariant
import Treewalk.Proofs.Evaluation.Lines
import Treewalk.Proofs.Evaluation.Literal
import Treewalk.Proofs.Evaluation.Locations
import Treewalk.Proofs.Evaluation.Lockstep
import Treewalk.Proofs.Evaluation.Memoization
import Treewalk.Proofs.Evaluation.Nesting
import Treewalk.Proofs.Evaluation.Output
import Treewalk.Proofs.Evaluation.Provenance
import Treewalk.Proofs.Evaluation.Quiet
import Treewalk.Proofs.Evaluation.Repetition
import Treewalk.Proofs.Evaluation.Resumption
import Treewalk.Proofs.Evaluation.Scoping
import Treewalk.Proofs.Evaluation.Simulation
import Treewalk.Proofs.Evaluation.Success
import Treewalk.Proofs.Evaluation.Termination
import Treewalk.Proofs.Evaluation.Triple
import Treewalk.Proofs.Evaluation.Truncation
import Treewalk.Proofs.Likeness
import Treewalk.Proofs.Operator.Arithmetic
import Treewalk.Proofs.Operator.Comparison
import Treewalk.Proofs.Operator.Outcome
import Treewalk.Proofs.Placement
import Treewalk.Proofs.Report.Drawn
import Treewalk.Proofs.Schema.Acceptance
import Treewalk.Proofs.Schema.Grammar
import Treewalk.Proofs.Schema.RoundTrip
import Treewalk.Proofs.Schema.Threshold
import Treewalk.Proofs.Signature
import Treewalk.Proofs.Subterm
import Treewalk.Proofs.Text.Boundary
import Treewalk.Proofs.Walk
import Treewalk.Report
import Treewalk.Report.Canvas
import Treewalk.Report.Layout
import Treewalk.Report.Source
import Treewalk.Schema.Decode
import Treewalk.Schema.Encode
import Treewalk.Schema.Field
import Treewalk.Scope
import Treewalk.Session
import Treewalk.Sink
import Treewalk.Term
import Treewalk.Text.Alphanumeric
import Treewalk.Text.BreakClass
import Treewalk.Text.Control
import Treewalk.Text.Fill
import Treewalk.Text.LineBreak
import Treewalk.Text.Quoted
import Treewalk.Text.Range
import Treewalk.Text.Unprintable
import Treewalk.Text.Width
import Treewalk.Value
import Treewalk.Walk
