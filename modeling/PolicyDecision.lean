import PolicyDecision.Attribute
import PolicyDecision.Bag
import PolicyDecision.Calendar.DateTime
import PolicyDecision.Calendar.Day
import PolicyDecision.Calendar.Lexical
import PolicyDecision.Calendar.Moment
import PolicyDecision.Codec.Configuration
import PolicyDecision.Codec.Description
import PolicyDecision.Codec.Fault
import PolicyDecision.Codec.Kind
import PolicyDecision.Codec.Policy
import PolicyDecision.Codec.Request
import PolicyDecision.Codec.Result
import PolicyDecision.Codec.Value
import PolicyDecision.Combining.Algorithm
import PolicyDecision.Combining.Fold
import PolicyDecision.DataTree.Basic
import PolicyDecision.DataTree.Decoding
import PolicyDecision.DataTree.Json
import PolicyDecision.DataTree.JsonReader
import PolicyDecision.Datatype
import PolicyDecision.Decision
import PolicyDecision.Duration.DayTime
import PolicyDecision.Duration.YearMonth
import PolicyDecision.Enforcement.Agent
import PolicyDecision.Enforcement.Router
import PolicyDecision.Enforcement.View
import PolicyDecision.Engine.Basic
import PolicyDecision.Engine.CombinedDecision
import PolicyDecision.Engine.OverStore
import PolicyDecision.Engine.Split
import PolicyDecision.Fault
import PolicyDecision.Function.Argument
import PolicyDecision.Function.BagOperation
import PolicyDecision.Function.Comparison
import PolicyDecision.Function.DateArithmetic
import PolicyDecision.Function.Definition
import PolicyDecision.Function.Logical
import PolicyDecision.Function.Normalization
import PolicyDecision.Function.Registry
import PolicyDecision.Function.SetOperation
import PolicyDecision.MatchResult
import PolicyDecision.Number.Double
import PolicyDecision.Number.Integer
import PolicyDecision.Number.NearestDouble
import PolicyDecision.Number.ShortestDecimal
import PolicyDecision.Obligation
import PolicyDecision.Outcome
import PolicyDecision.Permissions
import PolicyDecision.Policy.Directive
import PolicyDecision.Policy.Evaluation
import PolicyDecision.Policy.Expression
import PolicyDecision.Policy.Rule
import PolicyDecision.Policy.Target
import PolicyDecision.Policy.Tree
import PolicyDecision.Proofs.Combining.Closure
import PolicyDecision.Proofs.Combining.Duality
import PolicyDecision.Proofs.Combining.FirstApplicable
import PolicyDecision.Proofs.Combining.Fold
import PolicyDecision.Proofs.Combining.Overrides
import PolicyDecision.Proofs.Combining.Reach
import PolicyDecision.Proofs.Combining.WellFormed
import PolicyDecision.Proofs.Decision
import PolicyDecision.Proofs.Enforcement.Discharge
import PolicyDecision.Proofs.Enforcement.Routing
import PolicyDecision.Proofs.Engine.Decide
import PolicyDecision.Proofs.Engine.Evaluation
import PolicyDecision.Proofs.Engine.Split
import PolicyDecision.Proofs.Engine.Withholding
import PolicyDecision.Proofs.Function.Outcome
import PolicyDecision.Proofs.Itemwise
import PolicyDecision.Proofs.Policy.Agreement
import PolicyDecision.Proofs.Policy.Closure
import PolicyDecision.Proofs.Policy.Duality
import PolicyDecision.Proofs.Policy.Failure
import PolicyDecision.Proofs.Policy.Fulfilment
import PolicyDecision.Proofs.Policy.Tree
import PolicyDecision.Proofs.Policy.WellFormed
import PolicyDecision.Proofs.SortedMap
import PolicyDecision.Proofs.Store.Construction
import PolicyDecision.Proofs.Store.Integrity
import PolicyDecision.Proofs.Store.Loading
import PolicyDecision.Proofs.Store.Lookup
import PolicyDecision.Proofs.Store.Noninterference
import PolicyDecision.Proofs.Store.Provenance
import PolicyDecision.Proofs.Store.Reachability
import PolicyDecision.Proofs.Store.ReferenceCheck
import PolicyDecision.Proofs.Store.RootChoice
import PolicyDecision.Proofs.Store.Termination
import PolicyDecision.Request
import PolicyDecision.Result
import PolicyDecision.RootLookup
import PolicyDecision.SortedMap
import PolicyDecision.Status
import PolicyDecision.Store.Basic
import PolicyDecision.Store.Document
import PolicyDecision.Store.Lookup
import PolicyDecision.Store.ReferenceCheck
import PolicyDecision.Store.Update
import PolicyDecision.Text.Blank
import PolicyDecision.Text.Digits
import PolicyDecision.Text.Field
import PolicyDecision.Text.LowerCase
import PolicyDecision.Toml.Document
import PolicyDecision.Toml.Loading
import PolicyDecision.Toml.Moment
import PolicyDecision.Toml.Scalar
import PolicyDecision.Toml.Table
import PolicyDecision.Value
import PolicyDecision.Proofs.Engine.Isolation
import PolicyDecision.Proofs.Engine.Permissions
import PolicyDecision.Proofs.Number.Integer
import PolicyDecision.Proofs.Duration.YearMonth
import PolicyDecision.Proofs.Duration.DayTime
import PolicyDecision.Proofs.Calendar.Lexical
import PolicyDecision.Proofs.Value.CanonicalText
import PolicyDecision.Proofs.Combining.Prevailing
import PolicyDecision.Proofs.Combining.Join
import PolicyDecision.Proofs.Combining.Fallback
import PolicyDecision.Proofs.Combining.OnlyOneApplicable
import PolicyDecision.Proofs.Combining.Evaluations
import PolicyDecision.Proofs.Absorption
import PolicyDecision.Proofs.Calendar.DayNumber
import PolicyDecision.Proofs.Calendar.Timeline
import PolicyDecision.Proofs.Function.DateArithmetic
import PolicyDecision.Proofs.Engine.CombinedDecision
import PolicyDecision.Proofs.Engine.Grouping
import PolicyDecision.Proofs.Engine.CategoryProduct
import PolicyDecision.Proofs.Engine.Workers
import PolicyDecision.Proofs.Calendar.MonthShift
import PolicyDecision.Proofs.Function.MonthArithmetic
import PolicyDecision.Proofs.Text.Field
import PolicyDecision.Proofs.Duration.YearMonthForm
import PolicyDecision.Proofs.Duration.DayTimeForm
import PolicyDecision.Proofs.Duration.Grammar
import PolicyDecision.Proofs.Calendar.Grammar
import PolicyDecision.Proofs.Text.Position
import PolicyDecision.Proofs.Calendar.Position
import PolicyDecision.Proofs.Function.MachineArithmetic
import PolicyDecision.Proofs.Value.Equality
import PolicyDecision.Proofs.Bag
import PolicyDecision.Proofs.Deduplication
import PolicyDecision.Proofs.Function.Membership
import PolicyDecision.Proofs.Function.Equality
import PolicyDecision.Proofs.Policy.FirstFailure
import PolicyDecision.Proofs.Policy.Completeness
import PolicyDecision.Proofs.MatchResult
import PolicyDecision.Proofs.Policy.Target
import PolicyDecision.Proofs.Function.Validation
import PolicyDecision.Proofs.Function.Logical
import PolicyDecision.Proofs.Function.Fault
import PolicyDecision.Proofs.Function.Signature
import PolicyDecision.Proofs.Policy.FailurePath
import PolicyDecision.Proofs.Store.SearchLog
import PolicyDecision.Proofs.Enforcement.Delivery
import PolicyDecision.Proofs.Codec.Text
