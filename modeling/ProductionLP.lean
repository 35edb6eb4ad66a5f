import ProductionLP.Block
import ProductionLP.Block.Product
import ProductionLP.Calendar
import ProductionLP.Chart
import ProductionLP.CommandLine.Options
import ProductionLP.CommandLine.Run
import ProductionLP.Config.Basic
import ProductionLP.Config.Source
import ProductionLP.Decimal.Binary
import ProductionLP.Decimal.Integer
import ProductionLP.Decimal.Read
import ProductionLP.Decimal.Round
import ProductionLP.Decimal.Shortest
import ProductionLP.Decimal.Written
import ProductionLP.Error
import ProductionLP.Fault
import ProductionLP.Files.Path
import ProductionLP.Files.Tree
import ProductionLP.Frame.Basic
import ProductionLP.Frame.Column
import ProductionLP.Frame.Layout
import ProductionLP.Log.Run
import ProductionLP.Main
import ProductionLP.Matrix.Archive
import ProductionLP.Matrix.Binary
import ProductionLP.Matrix.Entry
import ProductionLP.Matrix.File
import ProductionLP.Matrix.Header
import ProductionLP.Matrix.Layout
import ProductionLP.Matrix.Literal
import ProductionLP.Matrix.Literal.Word
import ProductionLP.Page.Event
import ProductionLP.Page.Results
import ProductionLP.Page.Session
import ProductionLP.Page.Sheet
import ProductionLP.Program.Basic
import ProductionLP.Program.Resize
import ProductionLP.Program.Validate
import ProductionLP.Proofs.Bland
import ProductionLP.Proofs.Canonical
import ProductionLP.Proofs.Growth
import ProductionLP.Proofs.Outcome
import ProductionLP.Proofs.Pass
import ProductionLP.Proofs.Prices
import ProductionLP.Proofs.Program.Feasible
import ProductionLP.Proofs.Program.InPlace
import ProductionLP.Proofs.Program.Payload
import ProductionLP.Proofs.Program.Plan
import ProductionLP.Proofs.Program.ResizeLaws
import ProductionLP.Proofs.Program.Resized
import ProductionLP.Proofs.Program.Valid
import ProductionLP.Proofs.Readout
import ProductionLP.Proofs.Replay
import ProductionLP.Proofs.Rule
import ProductionLP.Proofs.Run
import ProductionLP.Proofs.Scalar
import ProductionLP.Proofs.Snapshots
import ProductionLP.Proofs.Solve
import ProductionLP.Proofs.Tableau.Entry
import ProductionLP.Proofs.Tableau.Equations
import ProductionLP.Proofs.Tableau.First
import ProductionLP.Proofs.Tableau.Names
import ProductionLP.Proofs.Tableau.Values
import ProductionLP.Record.Basic
import ProductionLP.Record.Files
import ProductionLP.Reference
import ProductionLP.Report
import ProductionLP.Scalar
import ProductionLP.Solution
import ProductionLP.Solver.Rule
import ProductionLP.Solver.Run
import ProductionLP.Solver.Settings
import ProductionLP.Tableau.Basic
import ProductionLP.Tableau.Build
import ProductionLP.Tableau.Pivot
import ProductionLP.Tableau.Stack
import ProductionLP.Tableau.Units
import ProductionLP.Tableau.Workbench
import ProductionLP.Text.Character
import ProductionLP.Text.Digit
import ProductionLP.Text.Printable
import ProductionLP.Text.Quoted
import ProductionLP.Text.SixBits
import ProductionLP.Text.Utf8
import ProductionLP.Value.Basic
import ProductionLP.Value.Convert
import ProductionLP.Value.Shown
import ProductionLP.Value.Table
import ProductionLP.Yaml.BlockText
import ProductionLP.Yaml.Content
import ProductionLP.Yaml.Cursor
import ProductionLP.Yaml.Document
import ProductionLP.Yaml.Kind
import ProductionLP.Yaml.Merge
import ProductionLP.Yaml.Node
import ProductionLP.Yaml.PlainText
import ProductionLP.Yaml.QuotedText
import ProductionLP.Yaml.Scalar
import ProductionLP.Yaml.Tag
import ProductionLP.Yaml.Token
import ProductionLP.Proofs.Objective
import ProductionLP.Proofs.RatioTest
import ProductionLP.Proofs.Program.Shape
import ProductionLP.Proofs.Page.Sheet
import ProductionLP.Proofs.Page.Session
import ProductionLP.Proofs.Decimal.Rounding
import ProductionLP.Proofs.Report
import ProductionLP.Proofs.CommandLine
import ProductionLP.Proofs.Simulation
import ProductionLP.Proofs.Limit
import ProductionLP.Proofs.Rescaled
import ProductionLP.Proofs.Program.Refusal
import ProductionLP.Proofs.Tableau.Labels
import ProductionLP.Proofs.Page.ReadBack
import ProductionLP.Proofs.Reference
import ProductionLP.Proofs.Text.Digit
import ProductionLP.Proofs.Record.Line
import ProductionLP.Proofs.Text.Json
import ProductionLP.Proofs.Decimal.Shortest
import ProductionLP.Proofs.Record.Document
import ProductionLP.Proofs.Tableau.Reversal
import ProductionLP.Proofs.LeastRatio
import ProductionLP.Proofs.Log.Registry
