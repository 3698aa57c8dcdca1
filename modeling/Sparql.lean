import Sparql.Vocabulary
import Sparql.Numeral
import Sparql.Text.Blank
import Sparql.Text.CodeRange
import Sparql.Text.Cut
import Sparql.Text.Digit
import Sparql.Text.Lowercase
import Sparql.Text.Utf8
import Sparql.Text.Word
import Sparql.Operator.Arity
import Sparql.Operator.Names
import Sparql.Regex.Library
import Sparql.Regex.Match
import Sparql.Regex.Reader
import Sparql.Regex.Reduced
import Sparql.Regex.Size
import Sparql.Regex.Widened
import Sparql.Namespaces
import Sparql.Options
import Sparql.Path.Bounds
import Sparql.Extension
import Sparql.Diagnostic
import Sparql.Diagnostic.Problem
import Sparql.Expr.Mentions
import Sparql.Expr.Text
import Sparql.Pattern.Triples
import Sparql.Query.Basic
import Sparql.Build.Calls
import Sparql.Build.Paths
import Sparql.Build.Patterns
import Sparql.Build.Clauses
import Sparql.Query.Normalize
import Sparql.Query.Check
import Sparql.Proofs.Build.Operations
import Sparql.Proofs.Check.Levels
import Sparql.Proofs.Check.Targets
import Sparql.Proofs.Check.Blanks
import Sparql.Proofs.Check.Untouched
import Sparql.Proofs.Check.Relayed
import Sparql.Proofs.Strict
import Sparql.Proofs.Fresh
import Sparql.Proofs.Lockstep
import Sparql.Proofs.Atomic
import Sparql.Proofs.Operator.Names
import Sparql.Proofs.Numeral.Literals
import Sparql.Proofs.Calls.Nearest
import Sparql.Proofs.Calls.Order
import Sparql.Proofs.Calls.WellFormed
import Sparql.Proofs.Path.Meaning
import Sparql.Proofs.Bindable.Projected
import Sparql.Proofs.Bindable.Scoped
import Sparql.Proofs.Describe.Agree
import Sparql.Proofs.Describe.Validity
import Sparql.Proofs.Adoption
import Sparql.Proofs.Reports
import Sparql.Proofs.Closed.Runs
import Sparql.Proofs.Union.Symmetric
import Sparql.Proofs.Registers.Runs
import Sparql.Proofs.Normalize.Frame
import Sparql.Proofs.Calls.Forgotten
import Sparql.Proofs.Calls.Inherited
import Sparql.Proofs.Calls.Redefined
import Sparql.Proofs.Check.Ground
import Sparql.Proofs.Check.Distinct
import Sparql.Proofs.Check.Once
import Sparql.Proofs.Check.Modifiers
import Sparql.Proofs.Path.Peeled
import Sparql.Proofs.Path.Bounded
import Sparql.Proofs.Path.Written
import Sparql.Proofs.Path.Shown
import Sparql.Proofs.Regex.Reported
import Sparql.Proofs.Regex.Anchors
import Sparql.Proofs.Collection.ReadBack
import Sparql.Proofs.Extension
import Sparql.Proofs.Spelling
import Sparql.Proofs.Pattern.Collected
import Sparql.Wire.Codec
