import InFlight.Admins
import InFlight.Audit.Basic
import InFlight.Audit.Format
import InFlight.Audit.HistoryFile
import InFlight.Audit.Journal
import InFlight.Audit.Layout
import InFlight.Audit.Listing
import InFlight.Audit.Patrol
import InFlight.Audit.Store
import InFlight.Audit.Sweep
import InFlight.Audit.Table
import InFlight.Calendar
import InFlight.CommandLine.Arguments
import InFlight.CommandLine.Command
import InFlight.CommandLine.Report
import InFlight.CommandLine.Run
import InFlight.CommandLine.Station
import InFlight.Database.Address
import InFlight.Database.Affinity
import InFlight.Database.Collation
import InFlight.Database.Connection
import InFlight.Database.File
import InFlight.Database.Image
import InFlight.Database.Journal
import InFlight.Database.Log
import InFlight.Database.Node
import InFlight.Database.Numeral
import InFlight.Database.Page
import InFlight.Database.Query.Answer
import InFlight.Database.Query.Arithmetic
import InFlight.Database.Query.Call
import InFlight.Database.Query.Cost
import InFlight.Database.Query.Evaluate
import InFlight.Database.Query.Literal
import InFlight.Database.Query.Make
import InFlight.Database.Query.Pattern
import InFlight.Database.Query.Plan
import InFlight.Database.Query.Row
import InFlight.Database.Query.Selection
import InFlight.Database.Real
import InFlight.Database.Record
import InFlight.Database.Scan
import InFlight.Database.Schema.Catalog
import InFlight.Database.Schema.Definition
import InFlight.Database.Schema.Function
import InFlight.Database.Schema.Rule
import InFlight.Database.Schema.Table
import InFlight.Database.Schema.Type
import InFlight.Database.Series
import InFlight.Database.Sql.Expr
import InFlight.Database.Sql.Grammar
import InFlight.Database.Sql.Reading
import InFlight.Database.Sql.Statement
import InFlight.Database.Sql.Token
import InFlight.Database.Sql.Word
import InFlight.Database.Tree
import InFlight.Database.Value
import InFlight.Database.Varint
import InFlight.Error
import InFlight.Files.Path
import InFlight.Files.Tree
import InFlight.Fingerprint
import InFlight.Fingerprint.Lineage
import InFlight.Hash.Sha256
import InFlight.Http.Body
import InFlight.Http.Exchange
import InFlight.Http.Head
import InFlight.Http.Pieces
import InFlight.Http.Query
import InFlight.Http.Reply
import InFlight.Http.Route
import InFlight.Json.Basic
import InFlight.Json.Fields
import InFlight.Json.Reader
import InFlight.Json.Token
import InFlight.Json.Writer
import InFlight.Main
import InFlight.Observation
import InFlight.Ranking
import InFlight.Registry.Activity
import InFlight.Registry.Basic
import InFlight.Registry.Chain
import InFlight.Registry.Record
import InFlight.Settings.Basic
import InFlight.Settings.File
import InFlight.Settings.Format
import InFlight.Settings.Overrides
import InFlight.Text.Blank
import InFlight.Text.Bytes
import InFlight.Text.Column
import InFlight.Text.Decimal
import InFlight.Text.Hex
import InFlight.Text.Percent
import InFlight.Text.Split
import InFlight.Text.Utf16
import InFlight.Text.Utf8
import InFlight.Proofs.Registry.Chain
import InFlight.Proofs.Registry.Roster
import InFlight.Proofs.Registry.Validity
import InFlight.Proofs.Registry.Refinement
import InFlight.Proofs.Registry.WellFormed
import InFlight.Proofs.Fingerprint.Levels
import InFlight.Proofs.Fingerprint.Growth
import InFlight.Proofs.Registry.Idempotence
import InFlight.Proofs.Registry.Deduplication
import InFlight.Proofs.Registry.Recency
import InFlight.Proofs.Ranking.Tally
import InFlight.Proofs.Registry.Activity
import InFlight.Proofs.Registry.Isolation
import InFlight.Proofs.Fingerprint.Prefixes
import InFlight.Proofs.Registry.Requests
import InFlight.Proofs.Ranking.Order
import InFlight.Proofs.Registry.Ranking
import InFlight.Proofs.Registry.Stats
import InFlight.Proofs.Audit.Contents
import InFlight.Proofs.Audit.Interchange
import InFlight.Proofs.Audit.Sweep
import InFlight.Proofs.Audit.Patrol
import InFlight.Proofs.Registry.Staleness
import InFlight.Proofs.Http.Effects
import InFlight.Proofs.Json.Integers
import InFlight.Proofs.Json.Grammar
import InFlight.Proofs.Json.Fields
import InFlight.Proofs.Json.RoundTrip
import InFlight.Proofs.Settings.RoundTrip
import InFlight.Proofs.Files.Path
import InFlight.Proofs.Files.Tree
import InFlight.Proofs.Settings.Save
import InFlight.Proofs.Settings.Partial
import InFlight.Proofs.Registry.Assignment
import InFlight.Proofs.Registry.Accounting
import InFlight.Proofs.Registry.Rotation
import InFlight.Proofs.Fingerprint.SinglePass
import InFlight.Proofs.Hash.Sha256
import InFlight.Proofs.Fingerprint.Agreement
import InFlight.Proofs.Registry.WindowCounts
import InFlight.Proofs.Audit.Exactness
import InFlight.Proofs.Audit.Windows
import InFlight.Proofs.Text.Decimal
import InFlight.Proofs.Http.Query
import InFlight.Proofs.Http.Ranking
import InFlight.Proofs.Http.Form
import InFlight.Proofs.Http.History
import InFlight.Proofs.Http.Body
import InFlight.Proofs.Registry.Touch
import InFlight.Proofs.Registry.Guarded
import InFlight.Proofs.Registry.Safety
import InFlight.Proofs.Text.Parts
import InFlight.Proofs.Text.Utf8
import InFlight.Proofs.Audit.Administrators
import InFlight.Proofs.Settings.AdminIds
import InFlight.Proofs.Settings.Overrides
