import Criteria.Text.Blank
import Criteria.Text.Caseless
import Criteria.Text.Span
import Criteria.Text.Quoted
import Criteria.Text.Ranges
import Criteria.Text.Extending
import Criteria.Text.Unseen
import Criteria.Text.Alphabetic
import Criteria.Text.Numeric
import Criteria.Text.Shown
import Criteria.Text.Pattern
import Criteria.Number.Shortest
import Criteria.Number.Basic
import Criteria.Json.Written
import Criteria.Json.Numeral
import Criteria.Error
import Criteria.Json.Basic
import Criteria.Value.Basic
import Criteria.Value.Json
import Criteria.Value.Path
import Criteria.Term.Basic
import Criteria.Term.Split
import Criteria.Expr.Basic
import Criteria.Expr.Level
import Criteria.Expr.Parser
import Criteria.Context
import Criteria.Function
import Criteria.Operator.Table
import Criteria.Operator.Standard
import Criteria.Condition.Evaluate
import Criteria.Evaluator
import Criteria.Command.Arguments
import Criteria.Document
import Criteria.Settings
import Criteria.Command.LogFilter
import Criteria.Command.Run
import Criteria.Main
import Criteria.Proofs.Term.Tiling
import Criteria.Proofs.Term.Enclosure
import Criteria.Proofs.Expr.Grammar
import Criteria.Proofs.Expr.Part
import Criteria.Proofs.Term.Placement
import Criteria.Proofs.Expr.Leaves
import Criteria.Proofs.Expr.Formula
import Criteria.Proofs.Expr.Shift
import Criteria.Proofs.Term.Keyword
import Criteria.Proofs.Expr.Written
import Criteria.Proofs.Text.Closed
import Criteria.Proofs.Condition.Context
import Criteria.Proofs.Evaluator
import Criteria.Proofs.Expr.Composition
import Criteria.Proofs.Evaluator.Composition
import Criteria.Proofs.Term.Exchange
import Criteria.Proofs.Expr.Exchange
import Criteria.Proofs.Condition.Parts
import Criteria.Proofs.Expr.Operands
import Criteria.Proofs.Evaluator.Juxtaposition
import Criteria.Proofs.Expr.Run
import Criteria.Proofs.Evaluator.Comparison
import Criteria.Proofs.Evaluator.Leaves
import Criteria.Proofs.Evaluator.Calls
import Criteria.Proofs.Registration
import Criteria.Proofs.Condition.Decomposition
import Criteria.Proofs.Condition.Map
import Criteria.Proofs.Condition.Stages
import Criteria.Proofs.Command.Quiet
import Criteria.Proofs.Command.Outcome
import Criteria.Proofs.Document
import Criteria.Proofs.Offset.Basic
import Criteria.Proofs.Offset.Terms
import Criteria.Proofs.Condition.Choice
import Criteria.Proofs.Offset.Level
import Criteria.Proofs.Offset.Subject
import Criteria.Proofs.Offset.Condition
import Criteria.Proofs.Offset.Evaluator
import Criteria.Proofs.Number.Rounding
import Criteria.Proofs.Number.Order
import Criteria.Proofs.Text.Hidden
import Criteria.Proofs.Term.Partition
import Criteria.Proofs.Text.Split
import Criteria.Proofs.Term.Word
import Criteria.Proofs.Condition.Literal
import Criteria.Proofs.Number.Integer
import Criteria.Proofs.Evaluator.IntegerComparison
import Criteria.Proofs.Condition.Arguments
import Criteria.Proofs.Evaluator.Invocation
import Criteria.Proofs.Condition.Call
import Criteria.Proofs.Number.Nearest
import Criteria.Proofs.Number.Exact
import Criteria.Proofs.Number.Mixed
import Criteria.Proofs.Value.Json
import Criteria.Proofs.Path.Scanner
import Criteria.Proofs.Path.Written
import Criteria.Proofs.Path.Lookup
import Criteria.Proofs.Path.Position
import Criteria.Proofs.Operator.Standard
import Criteria.Proofs.Evaluator.Single
import Criteria.Proofs.Condition.Front
import Criteria.Proofs.Evaluator.Standard
import Criteria.Proofs.Evaluator.Negation
import Criteria.Proofs.Evaluator.Membership
import Criteria.Proofs.Condition.Reserved
import Criteria.Proofs.Condition.Requoted
import Criteria.Proofs.Expr.Surroundings
import Criteria.Proofs.Number.Decimal
import Criteria.Proofs.Number.Numeral
import Criteria.Proofs.Evaluator.TextComparison
import Criteria.Proofs.Evaluator.ScalarLiteral
import Criteria.Proofs.Operator.Insertion
import Criteria.Proofs.Condition.Insertion
import Criteria.Proofs.Expr.Readers
