import QueryAlgebra.Decimal.Binary
import QueryAlgebra.Decimal.Reader
import QueryAlgebra.Floating.Numeral
import QueryAlgebra.Floating.Shortest
import QueryAlgebra.Term.Basic
import QueryAlgebra.Text.Blank
import QueryAlgebra.Text.Casing
import QueryAlgebra.Text.Digits
import QueryAlgebra.Text.Quoted
import QueryAlgebra.Error
import QueryAlgebra.Pattern.Basic
import QueryAlgebra.Solution
import QueryAlgebra.Expr.Basic
import QueryAlgebra.Expr.Rewriting
import QueryAlgebra.Expr.Sse
import QueryAlgebra.Expr.Substitution
import QueryAlgebra.Function.Registry
import QueryAlgebra.Floating.Canonical
import QueryAlgebra.Function.Cast
import QueryAlgebra.Function.Logic
import QueryAlgebra.Function.Standard
import QueryAlgebra.Function.Simple
import QueryAlgebra.Json.Basic
import QueryAlgebra.Json.Reader
import QueryAlgebra.Json.Number
import QueryAlgebra.Json.Printer
import QueryAlgebra.Evaluation
import QueryAlgebra.Filter
import QueryAlgebra.Document.Expr
import QueryAlgebra.Document.Options
import QueryAlgebra.Document.Pattern
import QueryAlgebra.Document.Solution
import QueryAlgebra.Query.Dispatch
import QueryAlgebra.Query.Memory
import QueryAlgebra.Query.Plan
import QueryAlgebra.Command.Arguments
import QueryAlgebra.Command.Files
import QueryAlgebra.Command.Invocation
import QueryAlgebra.Command.Run
import QueryAlgebra.Main
import QueryAlgebra.Proofs.Sequence
import QueryAlgebra.Proofs.Solution
import QueryAlgebra.Proofs.Solution.History
import QueryAlgebra.Proofs.Filter
import QueryAlgebra.Proofs.Json.Token
import QueryAlgebra.Proofs.Json.Reading
import QueryAlgebra.Proofs.Json.Parts
import QueryAlgebra.Proofs.Document.Record
import QueryAlgebra.Proofs.Document.Term
import QueryAlgebra.Proofs.Document.Expr
import QueryAlgebra.Proofs.Document.Pattern
import QueryAlgebra.Proofs.Document.Solution
import QueryAlgebra.Proofs.Document.Levels
import QueryAlgebra.Proofs.Document.Screening
import QueryAlgebra.Proofs.Document.Faults
import QueryAlgebra.Proofs.Json.Nesting
import QueryAlgebra.Proofs.Document.Roundtrip
import QueryAlgebra.Proofs.Document.Rereading
import QueryAlgebra.Proofs.OrderedMap
import QueryAlgebra.Proofs.Valid
import QueryAlgebra.Proofs.Expr.Occurrence
import QueryAlgebra.Proofs.Expr.Aggregates
import QueryAlgebra.Proofs.Expr.Depth
import QueryAlgebra.Proofs.Expr.Sse
import QueryAlgebra.Proofs.Expr.Variables
import QueryAlgebra.Proofs.Function.Registry
import QueryAlgebra.Proofs.Function.Errors
import QueryAlgebra.Proofs.Function.Results
import QueryAlgebra.Proofs.Function.History
import QueryAlgebra.Proofs.Evaluation.Meaning
import QueryAlgebra.Proofs.Evaluation.Limit
import QueryAlgebra.Proofs.Evaluation.Provenance
import QueryAlgebra.Proofs.Evaluation.Typing
import QueryAlgebra.Proofs.Term.Display
import QueryAlgebra.Proofs.Evaluation.Missing
import QueryAlgebra.Proofs.Filter.Negation
import QueryAlgebra.Proofs.Query.Protocol
import QueryAlgebra.Proofs.Rewriting.Machine
import QueryAlgebra.Proofs.Rewriting.Visits
import QueryAlgebra.Proofs.Rewriting.Pure
import QueryAlgebra.Proofs.Rewriting.Variables
import QueryAlgebra.Proofs.Evaluation.Locality
import QueryAlgebra.Proofs.Rewriting.Preservation
import QueryAlgebra.Proofs.Rewriting.Hoisting
import QueryAlgebra.Proofs.Rewriting.Restoring
import QueryAlgebra.Proofs.Command.Report
import QueryAlgebra.Proofs.Command.Depth
import QueryAlgebra.Proofs.Command.Rendering
import QueryAlgebra.Proofs.Command.Agreement
import QueryAlgebra.Proofs.Command.Files
import QueryAlgebra.Proofs.Command.Effects
import QueryAlgebra.Proofs.Evaluation.FirstError
import QueryAlgebra.Proofs.Evaluation.References
import QueryAlgebra.Proofs.Text.Digits
import QueryAlgebra.Proofs.Decimal.Numeral
import QueryAlgebra.Proofs.Decimal.Normal
import QueryAlgebra.Proofs.Decimal.Reading
import QueryAlgebra.Proofs.Decimal.Spelling
import QueryAlgebra.Proofs.Decimal.Rounding
import QueryAlgebra.Proofs.Decimal.Exponent
import QueryAlgebra.Proofs.Decimal.Whole
import QueryAlgebra.Proofs.Term.Truth
import QueryAlgebra.Proofs.Function.ExactCasts
import QueryAlgebra.Proofs.Function.CanonicalCasts
import QueryAlgebra.Proofs.Function.LexicalForms
import QueryAlgebra.Proofs.Function.Conditions
import QueryAlgebra.Proofs.Floating.Lexical
import QueryAlgebra.Proofs.Function.TextSources
import QueryAlgebra.Proofs.Function.TextPredicates
import QueryAlgebra.Proofs.Function.TextOrder
import QueryAlgebra.Proofs.Pattern.Matching
import QueryAlgebra.Proofs.Rewriting.Composition
import QueryAlgebra.Proofs.Rewriting.Traversal
import QueryAlgebra.Proofs.Query.Enumeration
import QueryAlgebra.Proofs.Term.Absolute
