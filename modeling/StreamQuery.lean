import StreamQuery.About
import StreamQuery.Assembly
import StreamQuery.Chain
import StreamQuery.Clause.Builders
import StreamQuery.Clause.Filter
import StreamQuery.Clause.GroupBy
import StreamQuery.Clause.Join
import StreamQuery.Clause.Kind
import StreamQuery.Clause.OrderBy
import StreamQuery.Clause.Select
import StreamQuery.Clause.Window
import StreamQuery.ColumnType
import StreamQuery.CommandLine
import StreamQuery.Context
import StreamQuery.DataType
import StreamQuery.Dictionary
import StreamQuery.Draft
import StreamQuery.Duration
import StreamQuery.Entity
import StreamQuery.Entity.Json
import StreamQuery.EntityFile
import StreamQuery.Expr.Basic
import StreamQuery.Expr.Fluent
import StreamQuery.Expr.Text
import StreamQuery.Failure
import StreamQuery.Function.Basic
import StreamQuery.Function.Catalog
import StreamQuery.Identifier
import StreamQuery.Json
import StreamQuery.Lowering
import StreamQuery.Main
import StreamQuery.Number.Binary64
import StreamQuery.Number.Decimal
import StreamQuery.Proofs.Assembly
import StreamQuery.Proofs.Chain
import StreamQuery.Proofs.Clause.BlankKeys
import StreamQuery.Proofs.Clause.ColumnNames
import StreamQuery.Proofs.Clause.Failures
import StreamQuery.Proofs.Clause.GroupKeys
import StreamQuery.Proofs.Clause.JoinKeys
import StreamQuery.Proofs.Clause.KeyLeaves
import StreamQuery.Proofs.Clause.NestedKeys
import StreamQuery.Proofs.Clause.Renaming
import StreamQuery.Proofs.Clause.RowReferences
import StreamQuery.Proofs.Clause.Sessions
import StreamQuery.Proofs.Clause.Window
import StreamQuery.Proofs.Clause.WindowChecks
import StreamQuery.Proofs.Clause.WindowLimits
import StreamQuery.Proofs.Clause.WindowSettings
import StreamQuery.Proofs.Context
import StreamQuery.Proofs.Duration
import StreamQuery.Proofs.Expr.MapLeaves
import StreamQuery.Proofs.Expr.Nodes
import StreamQuery.Proofs.Failure
import StreamQuery.Proofs.Function.Template
import StreamQuery.Proofs.Identifier
import StreamQuery.Proofs.Lowering.Aggregates
import StreamQuery.Proofs.Lowering.Agree
import StreamQuery.Proofs.Lowering.Aliases
import StreamQuery.Proofs.Lowering.Comments
import StreamQuery.Proofs.Lowering.Contexts
import StreamQuery.Proofs.Lowering.Failures
import StreamQuery.Proofs.Lowering.Idioms
import StreamQuery.Proofs.Lowering.Inversion
import StreamQuery.Proofs.Lowering.Leaves
import StreamQuery.Proofs.Lowering.NullTests
import StreamQuery.Proofs.Lowering.Operands
import StreamQuery.Proofs.Lowering.Receivers
import StreamQuery.Proofs.Lowering.References
import StreamQuery.Proofs.Lowering.Renaming
import StreamQuery.Proofs.Lowering.StringConstants
import StreamQuery.Proofs.Query.Alike
import StreamQuery.Proofs.Query.Calls
import StreamQuery.Proofs.Query.Conjunction
import StreamQuery.Proofs.Query.Definition
import StreamQuery.Proofs.Query.Draft
import StreamQuery.Proofs.Query.Emission
import StreamQuery.Proofs.Query.Failures
import StreamQuery.Proofs.Query.Grouping
import StreamQuery.Proofs.Query.Ordering
import StreamQuery.Proofs.Query.OrderingSpine
import StreamQuery.Proofs.Query.PassThrough
import StreamQuery.Proofs.Query.Renaming
import StreamQuery.Proofs.Query.Rendering
import StreamQuery.Proofs.Query.Shortcuts
import StreamQuery.Proofs.Query.Similar
import StreamQuery.Proofs.Query.Steps
import StreamQuery.Proofs.Query.Written
import StreamQuery.Proofs.Report
import StreamQuery.Proofs.Schema
import StreamQuery.Proofs.Schema.Statement
import StreamQuery.Proofs.Scope.Guards
import StreamQuery.Proofs.Sql.Blank
import StreamQuery.Proofs.Sql.Comments
import StreamQuery.Proofs.Sql.Delimited
import StreamQuery.Proofs.Sql.Lexeme
import StreamQuery.Proofs.Sql.Literal
import StreamQuery.Proofs.Sql.Nodes
import StreamQuery.Proofs.Sql.Operands
import StreamQuery.Proofs.Sql.Reading
import StreamQuery.Proofs.Sql.Shape
import StreamQuery.Proofs.Sql.Token
import StreamQuery.Proofs.Stages
import StreamQuery.Proofs.Text.Items
import StreamQuery.Query
import StreamQuery.Report
import StreamQuery.Schema
import StreamQuery.Scope
import StreamQuery.Scope.Program
import StreamQuery.Settings
import StreamQuery.Settings.Json
import StreamQuery.SettingsFile
import StreamQuery.Sql.Basic
import StreamQuery.Sql.Literal
import StreamQuery.Text.Blank
import StreamQuery.Text.Case
import StreamQuery.Text.CaseData
import StreamQuery.Window
import StreamQuery.Yaml.Cursor
import StreamQuery.Yaml.Node
import StreamQuery.Yaml.Scalar
import StreamQuery.Yaml.Token
