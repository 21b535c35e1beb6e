import SparseRows.Value.Json
import SparseRows.Workspace.Clients
import SparseRows.Proofs.Work
import SparseRows.Proofs.Memory.Rows
import SparseRows.Proofs.Body.Pieces
import SparseRows.Proofs.Body.SetRows
import SparseRows.Proofs.Body.Stored
import SparseRows.Proofs.Memory.Runs
import SparseRows.Proofs.Body.RoundTrip
import SparseRows.Proofs.Body.Layout
import SparseRows.Proofs.RowHash
import SparseRows.Proofs.Content.Edits
import SparseRows.Proofs.Content.PlainItem
import SparseRows.Proofs.Content.HandOver
import SparseRows.Proofs.Content.SaveCycle
import SparseRows.Proofs.Content.Editors
import SparseRows.Proofs.Relational.Bag
import SparseRows.Proofs.Relational.Driver
import SparseRows.Proofs.Relational.Client
import SparseRows.Proofs.Relational.Fleet
import SparseRows.Proofs.Relational.TripleDriver
import SparseRows.Proofs.Relational.Simulation
import SparseRows.Proofs.Relational.Traced
import SparseRows.Proofs.Relational.Texts
import SparseRows.Proofs.Relational.Course
import SparseRows.Proofs.Relational.Operations
import SparseRows.Proofs.Relational.EmbeddedStatements
import SparseRows.Proofs.Relational.Protocol
import SparseRows.Proofs.Relational.Changed
import SparseRows.Proofs.Relational.FailingDriver
import SparseRows.Proofs.Relational.Lapses
import SparseRows.Proofs.Relational.BrokenInsert
import SparseRows.Proofs.Content.Differences
import SparseRows.Proofs.Memory.Histories
import SparseRows.Proofs.Body.BrokenOff
import SparseRows.Proofs.Body.Damage
import SparseRows.Proofs.Files.Below
import SparseRows.Proofs.Body.InFiles
import SparseRows.Proofs.Body.Inside
import SparseRows.Proofs.Json.Spelling
import SparseRows.Proofs.Log.Lines
import SparseRows.Proofs.Log.Record
import SparseRows.Proofs.Relational.SchemaCheck
import SparseRows.Proofs.Relational.Outcomes
import SparseRows.Proofs.Relational.Lives
import SparseRows.Proofs.Relational.Hushed
import SparseRows.Proofs.Relational.Failures
import SparseRows.Proofs.Relational.Liveness
import SparseRows.Proofs.Text.Written
import SparseRows.Proofs.Text.Trim
import SparseRows.Proofs.Dialect.Statements
import SparseRows.Proofs.Dialect.Entries
import SparseRows.Proofs.Dialect.Folded
import SparseRows.Proofs.Content.Traversal
import SparseRows.Proofs.Batch
import SparseRows.Proofs.Json.Grammar
import SparseRows.Proofs.Json.Compact
import SparseRows.Proofs.Value.Views
import SparseRows.Proofs.Value.InJson
import SparseRows.Proofs.Config
import SparseRows.Proofs.Lists
import SparseRows.Proofs.Log.Mentions
import SparseRows.Proofs.Content.Stamps
import SparseRows.Proofs.Body.Removal
