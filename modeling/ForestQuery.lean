import ForestQuery.Binary64.Basic
import ForestQuery.Binary64.Rounding
import ForestQuery.Binary64.Shortest
import ForestQuery.Decimal.Digits
import ForestQuery.Decimal.Basic
import ForestQuery.Decimal.Literal
import ForestQuery.Text.Blank
import ForestQuery.Number
import ForestQuery.Json.Basic
import ForestQuery.Json.Path
import ForestQuery.Json.Render
import ForestQuery.Json.Tidy
import ForestQuery.Json.Token
import ForestQuery.Json.Draft
import ForestQuery.Text.CaseFold
import ForestQuery.Text.Quoted
import ForestQuery.Text.Word
import ForestQuery.Wire.Error
import ForestQuery.Wire.Record
import ForestQuery.Term.Basic
import ForestQuery.Term.Wire
import ForestQuery.Query.Basic
import ForestQuery.Query.Wire
import ForestQuery.Layout
import ForestQuery.Pattern
import ForestQuery.Operator
import ForestQuery.Predicate.Basic
import ForestQuery.Predicate.Matching
import ForestQuery.Predicate.OfTerm
import ForestQuery.Plan
import ForestQuery.Skeleton
import ForestQuery.Descent
import ForestQuery.Tree.Basic
import ForestQuery.Tree.Render
import ForestQuery.Tree.Link
import ForestQuery.Store.Basic
import ForestQuery.Store.Memory
import ForestQuery.Select.Error
import ForestQuery.Select.Event
import ForestQuery.Select.Counters
import ForestQuery.Select.Session
import ForestQuery.Proofs.Linking.Reach
import ForestQuery.Proofs.Linking.Placement
import ForestQuery.Proofs.Linking.Ways
import ForestQuery.Proofs.Linking.Forest
import ForestQuery.Proofs.Plan.Accounting
import ForestQuery.Proofs.Plan.Assembly
import ForestQuery.Proofs.Plan.Wrapping
import ForestQuery.Proofs.Decimal.Leading
import ForestQuery.Proofs.Predicate.Bounds
import ForestQuery.Proofs.Descent.Intervals
import ForestQuery.Proofs.Descent.Closure
import ForestQuery.Proofs.Linking.NestedSet
import ForestQuery.Proofs.Select.Steps
import ForestQuery.Proofs.Select.Hierarchy
import ForestQuery.Proofs.Select.Complete
import ForestQuery.Proofs.Linking.Unfolding
import ForestQuery.Proofs.Linking.Arrival
import ForestQuery.Proofs.Select.Courses
import ForestQuery.Proofs.Select.Protocol
import ForestQuery.Proofs.Select.Ledger
import ForestQuery.Proofs.Select.Groups
import ForestQuery.Proofs.Select.Outcome
import ForestQuery.Proofs.Select.Chronicle
import ForestQuery.Proofs.Select.Modifiers
import ForestQuery.Proofs.Predicate.Document
import ForestQuery.Proofs.Select.Faults
import ForestQuery.Proofs.Wire.Roundtrip
import ForestQuery.Proofs.Wire.Grammar
import ForestQuery.Proofs.Linking.Shape
import ForestQuery.Proofs.Layout.Entry
import ForestQuery.Proofs.Layout.Fields
import ForestQuery.Proofs.Select.Renaming
import ForestQuery.Proofs.Decimal.Shortest
import ForestQuery.Proofs.Decimal.Printed
import ForestQuery.Proofs.Predicate.Numbers
import ForestQuery.Proofs.Predicate.Expression
import ForestQuery.Proofs.Predicate.TextOperators
import ForestQuery.Proofs.Predicate.Comparison
import ForestQuery.Proofs.Predicate.Integers
import ForestQuery.Proofs.Decimal.Distinct
import ForestQuery.Proofs.Linking.Identity
import ForestQuery.Proofs.Tree.Rendering
import ForestQuery.Proofs.Tree.Reading
