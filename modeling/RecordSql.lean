import RecordSql.Compile.Session
import RecordSql.Memory.Database
import RecordSql.Memory.Script
import RecordSql.Report.Piece
import RecordSql.Proofs.Outcome
import RecordSql.Proofs.Command.Walk
import RecordSql.Proofs.Statement.Condition
import RecordSql.Proofs.Annotation.Reading
import RecordSql.Proofs.Annotation.Predicate
import RecordSql.Proofs.Check.Fits
import RecordSql.Proofs.Check.Joins
import RecordSql.Proofs.Statement.Lowering
import RecordSql.Proofs.Statement.Truth
import RecordSql.Proofs.Statement.Filter
import RecordSql.Proofs.Check.Names
import RecordSql.Proofs.Check.Bindings
import RecordSql.Proofs.Check.Access
import RecordSql.Proofs.Check.Writing
import RecordSql.Proofs.Statement.Parameters
import RecordSql.Proofs.Check.References
import RecordSql.Proofs.Command.Ident
import RecordSql.Proofs.Statement.Conflict
import RecordSql.Proofs.Statement.References
import RecordSql.Proofs.Statement.Pairings
import RecordSql.Proofs.Catalog.Operators
import RecordSql.Proofs.Check.Comparisons
import RecordSql.Proofs.Statement.Tests
import RecordSql.Proofs.Statement.Typing
import RecordSql.Proofs.Statement.Access
import RecordSql.Proofs.Statement.Writes
import RecordSql.Proofs.Check.Overloads
import RecordSql.Proofs.Check.Relisting
import RecordSql.Proofs.Statement.Functions
import RecordSql.Proofs.Check.Uniqueness
import RecordSql.Proofs.Statement.Uniqueness
import RecordSql.Proofs.Statement.Failure
import RecordSql.Proofs.Statement.JoinScope
import RecordSql.Proofs.Annotation.Order
import RecordSql.Proofs.Statement.JoinKinds
import RecordSql.Proofs.Catalog.Loading
import RecordSql.Proofs.Catalog.Cache
import RecordSql.Proofs.Catalog.History
import RecordSql.Proofs.Check.Steady
import RecordSql.Proofs.Compile.Batch
import RecordSql.Proofs.Annotation.WellFormed
import RecordSql.Proofs.Statement.Paths
import RecordSql.Proofs.Relation.Registry
import RecordSql.Proofs.Memory.Introspection
import RecordSql.Proofs.Statement.Nesting
import RecordSql.Proofs.Statement.Placeholders
import RecordSql.Proofs.Check.Queries
import RecordSql.Proofs.Annotation.Groups
import RecordSql.Proofs.Annotation.Layout
import RecordSql.Proofs.Statement.Unambiguity
import RecordSql.Proofs.Annotation.RoundTrip
import RecordSql.Proofs.Relation.UniqueIndex
import RecordSql.Proofs.Statement.Quoting
import RecordSql.Proofs.Typing.RowOrder
import RecordSql.Proofs.Typing.Coercion
import RecordSql.Proofs.Command.Grammar
import RecordSql.Proofs.Host.Signature
import RecordSql.Proofs.Text.TopLevel
import RecordSql.Proofs.Compile.StatementName
