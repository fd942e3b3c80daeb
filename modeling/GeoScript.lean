import GeoScript.Catalog.Category
import GeoScript.Catalog.Command
import GeoScript.Catalog.Reading
import GeoScript.Cli.Arguments
import GeoScript.Cli.LogLine
import GeoScript.Cli.Report
import GeoScript.Cli.Script
import GeoScript.Cli.Tasks
import GeoScript.Construction
import GeoScript.Data.Basic
import GeoScript.Data.Json
import GeoScript.Data.JsonReader
import GeoScript.Data.Toml.Lexical
import GeoScript.Data.Toml.Tables
import GeoScript.Data.TomlReader
import GeoScript.Decimal.Binary64
import GeoScript.Decimal.FloatStyle
import GeoScript.Decimal.Literal
import GeoScript.Decimal.Shortest
import GeoScript.Evaluation.Action
import GeoScript.Evaluation.Basic
import GeoScript.Evaluation.Definitions
import GeoScript.Evaluation.Engine
import GeoScript.Evaluation.Resolve
import GeoScript.Event
import GeoScript.Expr.Basic
import GeoScript.Expr.Data
import GeoScript.Expr.Display
import GeoScript.Fault.Basic
import GeoScript.Fault.Kind
import GeoScript.Fault.Record
import GeoScript.Figure
import GeoScript.Files.Folder
import GeoScript.Files.ReadError
import GeoScript.Filter.Arguments
import GeoScript.Filter.Chain
import GeoScript.Filter.Commands
import GeoScript.Main
import GeoScript.Number
import GeoScript.Options
import GeoScript.Profile.Apply
import GeoScript.Profile.Basic
import GeoScript.Profile.Format
import GeoScript.Profile.Load
import GeoScript.Proofs.Cli.Lines
import GeoScript.Proofs.Cli.Scripts
import GeoScript.Proofs.Construction.Ordered
import GeoScript.Proofs.Data.JsonText
import GeoScript.Proofs.Data.Results
import GeoScript.Proofs.Data.Without
import GeoScript.Proofs.Decimal.Bits
import GeoScript.Proofs.Decimal.Grammar
import GeoScript.Proofs.Decimal.Integers
import GeoScript.Proofs.Decimal.Printing
import GeoScript.Proofs.Decimal.ReadBack
import GeoScript.Proofs.Decimal.Recognition
import GeoScript.Proofs.Decimal.Rounding
import GeoScript.Proofs.Evaluation.Call
import GeoScript.Proofs.Evaluation.Filtering
import GeoScript.Proofs.Evaluation.Inert
import GeoScript.Proofs.Evaluation.Reports
import GeoScript.Proofs.Evaluation.Resolution
import GeoScript.Proofs.Evaluation.Shapes
import GeoScript.Proofs.Evaluation.Stray
import GeoScript.Proofs.Evaluation.Sums
import GeoScript.Proofs.Evaluation.Wording
import GeoScript.Proofs.Expr.Positions
import GeoScript.Proofs.Expr.Problems
import GeoScript.Proofs.Filter.Handles
import GeoScript.Proofs.Filter.Leaves
import GeoScript.Proofs.Labels.Binding
import GeoScript.Proofs.Labels.Deferred
import GeoScript.Proofs.Labels.Permission
import GeoScript.Proofs.Labels.Root
import GeoScript.Proofs.Profile.Enforcement
import GeoScript.Proofs.Profile.Filters
import GeoScript.Proofs.Profile.Installation
import GeoScript.Proofs.Profile.Order
import GeoScript.Proofs.Profile.ReadBack
import GeoScript.Proofs.Profile.Removal
import GeoScript.Proofs.Reading.Accepted
import GeoScript.Proofs.Reading.BracketedLists
import GeoScript.Proofs.Reading.Calls
import GeoScript.Proofs.Reading.Displayed
import GeoScript.Proofs.Reading.Labelled
import GeoScript.Proofs.Reading.NormalForm
import GeoScript.Proofs.Reading.RoundTrip
import GeoScript.Proofs.Reading.Shape
import GeoScript.Proofs.Reading.Substitution
import GeoScript.Proofs.Reading.WholeCalls
import GeoScript.Proofs.Session.Approval
import GeoScript.Proofs.Session.Boundaries
import GeoScript.Proofs.Session.Commit
import GeoScript.Proofs.Session.History
import GeoScript.Proofs.Session.Labelling
import GeoScript.Proofs.Session.Moves
import GeoScript.Proofs.Session.Recording
import GeoScript.Proofs.Session.Redefinition
import GeoScript.Proofs.Session.Stages
import GeoScript.Proofs.Session.Sums
import GeoScript.Proofs.Session.Validity
import GeoScript.Proofs.Syntax.Neutral
import GeoScript.Proofs.Syntax.Scan
import GeoScript.Proofs.Syntax.Splitting
import GeoScript.Proofs.Syntax.Tidy
import GeoScript.Proofs.Text.Trim
import GeoScript.Proofs.Traversal
import GeoScript.Session.Basic
import GeoScript.Session.FaultLog
import GeoScript.Session.Run
import GeoScript.Syntax.Form
import GeoScript.Syntax.Nesting
import GeoScript.Syntax.Reader
import GeoScript.Table
import GeoScript.Text.Blank
import GeoScript.Text.Parts
import GeoScript.Validation
import GeoScript.Workspace
