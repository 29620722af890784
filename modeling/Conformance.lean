import Conformance.Audit
import Conformance.Cell
import Conformance.CommandLine.Answer
import Conformance.CommandLine.Args
import Conformance.CommandLine.Reading
import Conformance.CommandLine.Switch
import Conformance.CommandLine.Writing
import Conformance.Conversion
import Conformance.Dataset
import Conformance.Files.FileSystem
import Conformance.Files.Path
import Conformance.Files.Replacement
import Conformance.Issue
import Conformance.Json.Token
import Conformance.Json.Value
import Conformance.Json.Written
import Conformance.Layout
import Conformance.Main
import Conformance.Number.Binary64
import Conformance.Number.Numeral
import Conformance.Number.Rounding
import Conformance.Number.Shortest
import Conformance.Options
import Conformance.Options.Document
import Conformance.Program
import Conformance.Proofs.Catalog.Contents
import Conformance.Proofs.Catalog.Scan
import Conformance.Proofs.Conversion.Acceptance
import Conformance.Proofs.Conversion.Outcome
import Conformance.Proofs.Dataset.Numbering
import Conformance.Proofs.TestCase.Assembly
import Conformance.Proofs.Traversal
import Conformance.Run
import Conformance.Run.Error
import Conformance.Run.Sources
import Conformance.Schema
import Conformance.Schema.BuiltIn
import Conformance.Schema.Table
import Conformance.Script
import Conformance.Sql.Definition
import Conformance.Sql.Grammar.Alias
import Conformance.Sql.Grammar.Alter
import Conformance.Sql.Grammar.Call
import Conformance.Sql.Grammar.Change
import Conformance.Sql.Grammar.ColumnOption
import Conformance.Sql.Grammar.Constraint
import Conformance.Sql.Grammar.Create
import Conformance.Sql.Grammar.DataType
import Conformance.Sql.Grammar.DocumentTable
import Conformance.Sql.Grammar.Drop
import Conformance.Sql.Grammar.Execution
import Conformance.Sql.Grammar.Expr
import Conformance.Sql.Grammar.From
import Conformance.Sql.Grammar.Level
import Conformance.Sql.Grammar.Name
import Conformance.Sql.Grammar.Operand
import Conformance.Sql.Grammar.Operator
import Conformance.Sql.Grammar.Parser
import Conformance.Sql.Grammar.Privilege
import Conformance.Sql.Grammar.Query
import Conformance.Sql.Grammar.Routine
import Conformance.Sql.Grammar.Select
import Conformance.Sql.Grammar.Session
import Conformance.Sql.Grammar.Show
import Conformance.Sql.Grammar.Statement
import Conformance.Sql.Grammar.Storage
import Conformance.Sql.Grammar.Table
import Conformance.Sql.Grammar.TimeUnit
import Conformance.Sql.Grammar.Transfer
import Conformance.Sql.Keyword
import Conformance.Sql.Lexer
import Conformance.Sql.Literal
import Conformance.Sql.Quoted
import Conformance.Sql.Token
import Conformance.Step.Catalog
import Conformance.Step.Reading
import Conformance.TestCase
import Conformance.Text.Alphanumeric
import Conformance.Text.Blank
import Conformance.Text.Fold
import Conformance.Text.Items
import Conformance.Text.Segments
import Conformance.Workbook
import Conformance.Workbook.Document
import Conformance.Workbook.UsedArea
import Conformance.Proofs.Conversion.Normalisation
import Conformance.Proofs.Sql.Barrier
import Conformance.Proofs.Sql.Lexing
import Conformance.Proofs.Sql.Pieces
import Conformance.Proofs.Sql.Spelling
import Conformance.Proofs.Script.Lines
import Conformance.Proofs.Script.Reading
import Conformance.Proofs.Script.Preamble
import Conformance.Proofs.Schema.Provision
import Conformance.Proofs.Schema.Verdict
import Conformance.Proofs.Schema.Leftover
import Conformance.Proofs.Files.Replacement
import Conformance.Proofs.Script.Agreement
import Conformance.Proofs.Run.Outcome
import Conformance.Proofs.Report
import Conformance.Proofs.Catalog.Report
import Conformance.Proofs.Catalog.Policies
import Conformance.Proofs.Layout.Resolution
import Conformance.Proofs.TestCase.Report
import Conformance.Proofs.Workbook.Cells
import Conformance.Proofs.Conversion.Report
import Conformance.Proofs.Conversion.Relevance
import Conformance.Proofs.Catalog.Growth
import Conformance.Proofs.Conversion.ScanOrder
import Conformance.Proofs.Conversion.Growth
import Conformance.Proofs.Dataset.Keys
import Conformance.Proofs.Catalog.Remark
import Conformance.Proofs.TestCase.Remark
import Conformance.Proofs.Conversion.Accounting
import Conformance.Proofs.TestCase.Reference
import Conformance.Proofs.Conversion.Redefinition
import Conformance.Proofs.Script.Refusal
import Conformance.Proofs.Catalog.History
import Conformance.Proofs.Layout.IndexForm
import Conformance.Proofs.Json.Spelling
import Conformance.Proofs.Json.Lexing
import Conformance.Proofs.Json.Grammar
import Conformance.Proofs.Json.Writing
import Conformance.Proofs.Options.Record
import Conformance.Proofs.Options.Document
import Conformance.Proofs.Sql.Closing
import Conformance.Proofs.Sql.Creation
import Conformance.Proofs.Schema.Idle
import Conformance.Proofs.Conversion.Location
import Conformance.Proofs.Workbook.UsedArea
import Conformance.Proofs.Files.History
import Conformance.Proofs.Options.Closed
import Conformance.Proofs.Options.Settings
import Conformance.Proofs.Run.Options
import Conformance.Proofs.Text.Listing
import Conformance.Proofs.Sql.Quoting
import Conformance.Proofs.Number.Magnitude
import Conformance.Proofs.Number.Nearest
import Conformance.Proofs.Number.Shortest
import Conformance.Proofs.Number.Plain
import Conformance.Proofs.Number.Identity
import Conformance.Proofs.Number.Whole
import Conformance.Proofs.Number.Rounding
import Conformance.Proofs.CommandLine.Words
import Conformance.Proofs.CommandLine.Drafts
import Conformance.Proofs.CommandLine.Order
import Conformance.Proofs.Workbook.Blank
