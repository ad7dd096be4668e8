import LedgerMatch.Amount.Basic
import LedgerMatch.Amount.Reader
import LedgerMatch.Amount.Real
import LedgerMatch.Amount.Sum
import LedgerMatch.Binary64.Arithmetic
import LedgerMatch.Binary64.Basic
import LedgerMatch.Binary64.Bits
import LedgerMatch.Binary64.Decimal
import LedgerMatch.Binary64.Extended
import LedgerMatch.Calendar.Date
import LedgerMatch.Calendar.Reader
import LedgerMatch.Calendar.Timestamp
import LedgerMatch.Csv.Columns
import LedgerMatch.Csv.Decoder
import LedgerMatch.Csv.Record
import LedgerMatch.Csv.Writer
import LedgerMatch.Direction
import LedgerMatch.Discovery
import LedgerMatch.Document
import LedgerMatch.Entry
import LedgerMatch.Environment.Assignment
import LedgerMatch.Environment.Dotenv
import LedgerMatch.Environment.Variables
import LedgerMatch.Failure
import LedgerMatch.Files.Basic
import LedgerMatch.Files.Faults
import LedgerMatch.Files.Flat
import LedgerMatch.Files.Tree
import LedgerMatch.Ini
import LedgerMatch.Intake
import LedgerMatch.Json.Number
import LedgerMatch.Json.Reader
import LedgerMatch.Json.Relaxed
import LedgerMatch.Layout.Ledger
import LedgerMatch.Layout.Registry
import LedgerMatch.Layout.Statement
import LedgerMatch.LogFilter
import LedgerMatch.Main
import LedgerMatch.Partition
import LedgerMatch.Path
import LedgerMatch.Program
import LedgerMatch.Proofs.Amount.Notation
import LedgerMatch.Proofs.Amount.Numeral
import LedgerMatch.Proofs.Amount.Plain
import LedgerMatch.Proofs.Amount.Reading
import LedgerMatch.Proofs.Amount.Rounding
import LedgerMatch.Proofs.Amount.Sign
import LedgerMatch.Proofs.Amount.Size
import LedgerMatch.Proofs.Amount.Sum
import LedgerMatch.Proofs.Amount.Text
import LedgerMatch.Proofs.Binary64.Extended
import LedgerMatch.Proofs.Binary64.Order
import LedgerMatch.Proofs.Binary64.Rounding
import LedgerMatch.Proofs.Calendar.Order
import LedgerMatch.Proofs.Calendar.Reader
import LedgerMatch.Proofs.Common
import LedgerMatch.Proofs.Csv.ColumnOrder
import LedgerMatch.Proofs.Csv.Columns
import LedgerMatch.Proofs.Csv.Decoder
import LedgerMatch.Proofs.Csv.Lines
import LedgerMatch.Proofs.Csv.Position
import LedgerMatch.Proofs.Csv.Removal
import LedgerMatch.Proofs.Csv.RoundTrip
import LedgerMatch.Proofs.Discovery
import LedgerMatch.Proofs.Files.Contents
import LedgerMatch.Proofs.Files.Flat
import LedgerMatch.Proofs.Files.Rewriting
import LedgerMatch.Proofs.Files.Tree
import LedgerMatch.Proofs.Intake
import LedgerMatch.Proofs.Intake.Banks
import LedgerMatch.Proofs.Intake.Canonical
import LedgerMatch.Proofs.Intake.Failures
import LedgerMatch.Proofs.Intake.Interleaving
import LedgerMatch.Proofs.Layout.Registry
import LedgerMatch.Proofs.Matching.Groups
import LedgerMatch.Proofs.Matching.Order
import LedgerMatch.Proofs.Partition
import LedgerMatch.Proofs.Partition.Buckets
import LedgerMatch.Proofs.Partition.Ranges
import LedgerMatch.Proofs.Path
import LedgerMatch.Proofs.Report
import LedgerMatch.Proofs.Report.Filing
import LedgerMatch.Proofs.Report.Frame
import LedgerMatch.Proofs.Report.ReadBack
import LedgerMatch.Proofs.Report.Refusals
import LedgerMatch.Proofs.Report.Rewriting
import LedgerMatch.Proofs.Run
import LedgerMatch.Proofs.Run.Again
import LedgerMatch.Proofs.Run.Completed
import LedgerMatch.Proofs.Run.Conservation
import LedgerMatch.Proofs.Run.ControlFlow
import LedgerMatch.Proofs.Run.Findings
import LedgerMatch.Proofs.Run.Interrupted
import LedgerMatch.Proofs.Run.Steps
import LedgerMatch.Proofs.Schedule
import LedgerMatch.Proofs.Settings.Entries
import LedgerMatch.Proofs.Settings.Fields
import LedgerMatch.Proofs.Settings.Load
import LedgerMatch.Proofs.Settings.Scalars
import LedgerMatch.Proofs.Staging.Atomicity
import LedgerMatch.Proofs.Staging.Chunks
import LedgerMatch.Proofs.Staging.Conservation
import LedgerMatch.Proofs.Staging.Counts
import LedgerMatch.Proofs.Staging.ImportOrder
import LedgerMatch.Proofs.Staging.MatchedAmounts
import LedgerMatch.Proofs.Staging.Matching
import LedgerMatch.Proofs.Staging.Maximum
import LedgerMatch.Proofs.Staging.MissedMatches
import LedgerMatch.Proofs.Staging.Pairs
import LedgerMatch.Proofs.Staging.Queries
import LedgerMatch.Proofs.Staging.Records
import LedgerMatch.Proofs.Staging.Requests
import LedgerMatch.Proofs.Staging.Sums
import LedgerMatch.Proofs.Staging.Tables
import LedgerMatch.Proofs.Text.Bytes
import LedgerMatch.Proofs.Text.Digits
import LedgerMatch.Proofs.Text.Letter
import LedgerMatch.Proofs.Text.Pattern
import LedgerMatch.Proofs.Window
import LedgerMatch.Report
import LedgerMatch.Ron
import LedgerMatch.Run
import LedgerMatch.Schedule
import LedgerMatch.Settings.Basic
import LedgerMatch.Settings.Entries
import LedgerMatch.Settings.File
import LedgerMatch.Settings.Key
import LedgerMatch.Settings.Load
import LedgerMatch.Settings.Values
import LedgerMatch.Staging.Address
import LedgerMatch.Staging.Area
import LedgerMatch.Staging.Call
import LedgerMatch.Staging.Matching
import LedgerMatch.Staging.Opening
import LedgerMatch.Staging.Pages
import LedgerMatch.Staging.Query
import LedgerMatch.Staging.Row
import LedgerMatch.Staging.Tables
import LedgerMatch.Text.Alphanumeric
import LedgerMatch.Text.Blank
import LedgerMatch.Text.Bytes
import LedgerMatch.Text.CodePoints
import LedgerMatch.Text.Integer
import LedgerMatch.Text.Letter
import LedgerMatch.Text.Numeral
import LedgerMatch.Text.Printed
import LedgerMatch.Text.Quoted
import LedgerMatch.Text.Reader
import LedgerMatch.Text.Split
import LedgerMatch.Toml.Moment
import LedgerMatch.Toml.Number
import LedgerMatch.Toml.Quoted
import LedgerMatch.Toml.Reader
import LedgerMatch.Toml.Table
import LedgerMatch.Value
import LedgerMatch.Warning
import LedgerMatch.Window
import LedgerMatch.Yaml.Block
import LedgerMatch.Yaml.Flow
import LedgerMatch.Yaml.Node
import LedgerMatch.Yaml.Scalar
