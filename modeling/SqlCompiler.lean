import SqlCompiler.Calendar.Basic
import SqlCompiler.Calendar.Epoch
import SqlCompiler.Calendar.Moment
import SqlCompiler.Calendar.Reading
import SqlCompiler.Calendar.Universal
import SqlCompiler.Calendar.Written
import SqlCompiler.Condition.Basic
import SqlCompiler.Condition.Compile
import SqlCompiler.Condition.Operator
import SqlCompiler.Condition.Order
import SqlCompiler.Condition.Read
import SqlCompiler.Database.Basic
import SqlCompiler.Database.Client
import SqlCompiler.Database.Connect
import SqlCompiler.Database.Connection
import SqlCompiler.Database.Driver
import SqlCompiler.Database.Postgres
import SqlCompiler.Database.Script
import SqlCompiler.Database.Sqlite
import SqlCompiler.Ddl.Column
import SqlCompiler.Ddl.Constraint
import SqlCompiler.Ddl.Index
import SqlCompiler.Ddl.Table
import SqlCompiler.Dialect.Basic
import SqlCompiler.Dialect.ColumnType
import SqlCompiler.Dialect.Profile
import SqlCompiler.Digest.Base64
import SqlCompiler.Digest.Sha1
import SqlCompiler.Error
import SqlCompiler.Files.Path
import SqlCompiler.Files.Tree
import SqlCompiler.Freshness.Generate
import SqlCompiler.Freshness.Outdated
import SqlCompiler.Freshness.Source
import SqlCompiler.Json.Reader
import SqlCompiler.Json.Text
import SqlCompiler.Log.Basic
import SqlCompiler.Log.Checked
import SqlCompiler.Model.Ancestry
import SqlCompiler.Model.Class
import SqlCompiler.Model.Describe
import SqlCompiler.Model.FieldType
import SqlCompiler.Model.Generator
import SqlCompiler.Model.Limit
import SqlCompiler.Model.Member
import SqlCompiler.Model.NamedType
import SqlCompiler.Model.Read
import SqlCompiler.Number.Arithmetic
import SqlCompiler.Number.Decimal
import SqlCompiler.Number.Double
import SqlCompiler.Number.Exact
import SqlCompiler.Number.Numeral
import SqlCompiler.Number.Shortest
import SqlCompiler.Number.Text
import SqlCompiler.Number.Word
import SqlCompiler.Proofs.Condition.Arguments
import SqlCompiler.Proofs.Condition.Meaning
import SqlCompiler.Proofs.Condition.Numbering
import SqlCompiler.Proofs.Condition.Reading
import SqlCompiler.Proofs.Condition.Shape
import SqlCompiler.Proofs.Condition.Tokens
import SqlCompiler.Proofs.Database.Creation
import SqlCompiler.Proofs.Database.Preparation
import SqlCompiler.Proofs.Log.Outcome
import SqlCompiler.Proofs.Logic.Precedence
import SqlCompiler.Proofs.Schema.Checking
import SqlCompiler.Proofs.Schema.Reading
import SqlCompiler.Proofs.Schema.RoundTrip
import SqlCompiler.Proofs.Sql.Binding
import SqlCompiler.Proofs.Sql.Literals
import SqlCompiler.Proofs.Sql.NullOrdering
import SqlCompiler.Proofs.Sql.Numbering
import SqlCompiler.Proofs.Sql.Pieces
import SqlCompiler.Proofs.Sql.Scanning
import SqlCompiler.Proofs.Sql.Supply
import SqlCompiler.Proofs.Text.Split
import SqlCompiler.Proofs.Value.Document
import SqlCompiler.Schema.Assign
import SqlCompiler.Schema.Basic
import SqlCompiler.Schema.Checked
import SqlCompiler.Schema.Enhance
import SqlCompiler.Schema.Issue
import SqlCompiler.Schema.Read
import SqlCompiler.Schema.Write
import SqlCompiler.Settings
import SqlCompiler.Sql.Bind
import SqlCompiler.Sql.Fragment
import SqlCompiler.Sql.Hash
import SqlCompiler.Sql.Identifier
import SqlCompiler.Sql.Inline
import SqlCompiler.Sql.Keywords
import SqlCompiler.Sql.Literal
import SqlCompiler.Sql.NullOrdering
import SqlCompiler.Sql.Placeholder
import SqlCompiler.Sql.Template
import SqlCompiler.Sql.Term
import SqlCompiler.Text.Blank
import SqlCompiler.Text.Case
import SqlCompiler.Text.CaseTable
import SqlCompiler.Text.Digit
import SqlCompiler.Text.DigitTable
import SqlCompiler.Text.Pattern
import SqlCompiler.Text.Printable
import SqlCompiler.Text.PrintableTable
import SqlCompiler.Text.Quoted
import SqlCompiler.Text.Ranges
import SqlCompiler.Text.Split
import SqlCompiler.Text.Utf8
import SqlCompiler.Text.Word
import SqlCompiler.Text.WordTable
import SqlCompiler.Value
import SqlCompiler.Value.Display
import SqlCompiler.Value.Equal
import SqlCompiler.Value.Object
import SqlCompiler.Value.Sum
import SqlCompiler.Proofs.Sql.Keywords
import SqlCompiler.Proofs.Ddl.Default
import SqlCompiler.Proofs.Schema.Enhancing
import SqlCompiler.Proofs.Ddl.Rewritten
import SqlCompiler.Proofs.Calendar.Days
import SqlCompiler.Proofs.Calendar.Stamp
import SqlCompiler.Proofs.Files.Path
import SqlCompiler.Proofs.Freshness.Identity
import SqlCompiler.Proofs.Freshness.Verdict
import SqlCompiler.Proofs.Digest.Base64
import SqlCompiler.Proofs.Freshness.Generation
import SqlCompiler.Proofs.Freshness.Tag
import SqlCompiler.Proofs.Freshness.Interleaving
import SqlCompiler.Proofs.Database.Requests
import SqlCompiler.Proofs.Ddl.IndexNames
import SqlCompiler.Proofs.Ddl.Naming
import SqlCompiler.Proofs.Freshness.Coherence
import SqlCompiler.Proofs.Sql.Spelling
import SqlCompiler.Proofs.Condition.Rejection
import SqlCompiler.Proofs.Ddl.Body
import SqlCompiler.Proofs.Ddl.Checks
import SqlCompiler.Proofs.Ddl.ConstraintNames
import SqlCompiler.Proofs.Ddl.Refusal
import SqlCompiler.Proofs.Sql.Paths
import SqlCompiler.Proofs.Text.Case
import SqlCompiler.Proofs.Lists
import SqlCompiler.Proofs.Ddl.Reordering
import SqlCompiler.Proofs.Schema.Accumulation
import SqlCompiler.Proofs.Ddl.PrimaryKeys
import SqlCompiler.Proofs.Freshness.Reuse
import SqlCompiler.Proofs.Sql.Completeness
import SqlCompiler.Proofs.Files.Tree
import SqlCompiler.Proofs.Freshness.Stamping
import SqlCompiler.Proofs.Freshness.Ensuring
import SqlCompiler.Proofs.Freshness.Deeds
import SqlCompiler.Proofs.Freshness.Atomicity
import SqlCompiler.Proofs.Sql.Opaque
import SqlCompiler.Proofs.Database.Literals
import SqlCompiler.Proofs.Condition.Dialects
import SqlCompiler.Proofs.Sql.Identifiers
import SqlCompiler.Proofs.Ddl.ValueSource
import SqlCompiler.Proofs.Sql.Masking
import SqlCompiler.Proofs.Ddl.LineStructure
import SqlCompiler.Proofs.Text.OneLine
import SqlCompiler.Proofs.Sql.Filling
import SqlCompiler.Proofs.Sql.Inlining
import SqlCompiler.Proofs.Database.StatementLog
import SqlCompiler.Proofs.Freshness.StampOrder
import SqlCompiler.Proofs.Schema.Tags
import SqlCompiler.Proofs.Schema.Spellings
import SqlCompiler.Proofs.Model.Describing
import SqlCompiler.Proofs.Ddl.Lengths
import SqlCompiler.Proofs.Log.Scopes
import SqlCompiler.Proofs.Database.Cursors
import SqlCompiler.Proofs.Sql.Respelling
import SqlCompiler.Proofs.Sql.TornOrdering
import SqlCompiler.Proofs.Sql.Templates
import SqlCompiler.Proofs.Text.Quoted
import SqlCompiler.Proofs.Value.Display
import SqlCompiler.Proofs.Sql.Equality
