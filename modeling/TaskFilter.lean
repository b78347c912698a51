import TaskFilter.Command.Arguments
import TaskFilter.Command.Environment
import TaskFilter.Command.Failure
import TaskFilter.Command.FileTree
import TaskFilter.Command.Input
import TaskFilter.Command.Log
import TaskFilter.Command.Run
import TaskFilter.Command.World
import TaskFilter.Compilation
import TaskFilter.Date.Calendar
import TaskFilter.Date.Forms
import TaskFilter.Decimal.Range
import TaskFilter.Decimal.Reading
import TaskFilter.Decimal.Shortest
import TaskFilter.Field
import TaskFilter.Field.Listing
import TaskFilter.Json.Document
import TaskFilter.Json.Layout
import TaskFilter.Json.Name
import TaskFilter.Json.Number
import TaskFilter.Json.Printer
import TaskFilter.Json.Quoted
import TaskFilter.Json.ReadError
import TaskFilter.Json.Token
import TaskFilter.Json.Value
import TaskFilter.Log.Event
import TaskFilter.Log.Filter
import TaskFilter.Main
import TaskFilter.Operand
import TaskFilter.Operator
import TaskFilter.Proofs.Command.Findings
import TaskFilter.Proofs.Command.Flags
import TaskFilter.Proofs.Command.Inspection
import TaskFilter.Proofs.Command.Lines
import TaskFilter.Proofs.Command.Logging
import TaskFilter.Proofs.Command.Pipelines
import TaskFilter.Proofs.Command.Presentation
import TaskFilter.Proofs.Command.Stages
import TaskFilter.Proofs.Command.Statuses
import TaskFilter.Proofs.Command.Tables
import TaskFilter.Proofs.Command.Verdicts
import TaskFilter.Proofs.Date.FixedWidth
import TaskFilter.Proofs.Date.Spelling
import TaskFilter.Proofs.Date.Tightness
import TaskFilter.Proofs.Date.Zones
import TaskFilter.Proofs.Decimal.Writing
import TaskFilter.Proofs.Json.Members
import TaskFilter.Proofs.Json.Parsing
import TaskFilter.Proofs.Json.Printing
import TaskFilter.Proofs.Json.Quoted
import TaskFilter.Proofs.Json.Reading
import TaskFilter.Proofs.Json.Spelling
import TaskFilter.Proofs.Json.Texts
import TaskFilter.Proofs.Record.Compiling
import TaskFilter.Proofs.Record.Contract
import TaskFilter.Proofs.Record.Contributions
import TaskFilter.Proofs.Record.Expressing
import TaskFilter.Proofs.Record.Ignoring
import TaskFilter.Proofs.Record.Meaning
import TaskFilter.Proofs.Record.Rules
import TaskFilter.Proofs.Record.Spelling
import TaskFilter.Proofs.Record.Writing
import TaskFilter.Proofs.Report.Colors
import TaskFilter.Proofs.Report.Reading
import TaskFilter.Proofs.Report.Rows
import TaskFilter.Proofs.Report.Writing
import TaskFilter.Proofs.Script.Atoms
import TaskFilter.Proofs.Script.Emitting
import TaskFilter.Proofs.Script.Fragments
import TaskFilter.Proofs.Script.OneLine
import TaskFilter.Proofs.Script.Operands
import TaskFilter.Proofs.Script.Precedence
import TaskFilter.Proofs.Script.Reading
import TaskFilter.Proofs.Script.Refusing
import TaskFilter.Proofs.Script.Scanning
import TaskFilter.Proofs.Script.Searching
import TaskFilter.Proofs.Script.Structure
import TaskFilter.Proofs.Script.Valuation
import TaskFilter.Proofs.Text.FinalSigma
import TaskFilter.Proofs.Text.Lines
import TaskFilter.Proofs.Text.LowerCase
import TaskFilter.Proofs.Text.Reading
import TaskFilter.Proofs.Tree.Conditions
import TaskFilter.Proofs.Tree.Meaning
import TaskFilter.Proofs.Tree.Reading
import TaskFilter.Proofs.Tree.Shape
import TaskFilter.Proofs.Tree.Spelling
import TaskFilter.Proofs.Validation.Causes
import TaskFilter.Proofs.Validation.Conflicts
import TaskFilter.Proofs.Validation.Contradictions
import TaskFilter.Proofs.Validation.Distinct
import TaskFilter.Proofs.Validation.Located
import TaskFilter.Proofs.Validation.Places
import TaskFilter.Proofs.Validation.Suggesting
import TaskFilter.Proofs.Validation.Tautologies
import TaskFilter.Proofs.Validation.Verbatim
import TaskFilter.Record.Basic
import TaskFilter.Record.Definition
import TaskFilter.Record.Rules
import TaskFilter.Record.Wire
import TaskFilter.Report.Basic
import TaskFilter.Report.Diagnostic
import TaskFilter.Report.Table
import TaskFilter.Script.Atom
import TaskFilter.Script.Derived
import TaskFilter.Script.Dialect
import TaskFilter.Script.Emission
import TaskFilter.Script.EmissionError
import TaskFilter.Script.Expr
import TaskFilter.Settings
import TaskFilter.Text.AsciiCase
import TaskFilter.Text.Blank
import TaskFilter.Text.CaseTables
import TaskFilter.Text.DisplayTables
import TaskFilter.Text.LowerCase
import TaskFilter.Text.Quoted
import TaskFilter.Text.Ranges
import TaskFilter.Text.Reading
import TaskFilter.Text.Segments
import TaskFilter.Text.Similarity
import TaskFilter.Text.Styled
import TaskFilter.Toml.Document
import TaskFilter.Toml.Item
import TaskFilter.Toml.Quoted
import TaskFilter.Toml.Scalar
import TaskFilter.Tree.Basic
import TaskFilter.Tree.Reading
import TaskFilter.Validation.Basic
import TaskFilter.Validation.Conflict
import TaskFilter.Validation.Finding
import TaskFilter.Validation.Suggestion
