import Accession.Command.Arguments
import Accession.Command.Files
import Accession.Command.Run
import Accession.Decimal.Binary
import Accession.Decimal.Integer
import Accession.Decimal.Layout
import Accession.Decimal.Reader
import Accession.Decimal.Shortest
import Accession.Dict
import Accession.Json.Fault
import Accession.Json.Reader
import Accession.Json.Value
import Accession.Load.Batch
import Accession.Load.Keys
import Accession.Load.Options
import Accession.Load.Progress
import Accession.Load.Row
import Accession.Load.Walk
import Accession.Main
import Accession.Mapping.Config
import Accession.Mapping.Document
import Accession.Mapping.Error
import Accession.Mapping.Fit
import Accession.Mapping.Node
import Accession.Mapping.Scope
import Accession.Mapping.Source
import Accession.Proofs.Decimal.Integers
import Accession.Proofs.Decimal.Normal
import Accession.Proofs.Decimal.Numbers
import Accession.Proofs.Decimal.Rounding
import Accession.Proofs.Decimal.Spelled
import Accession.Proofs.Json.Extent
import Accession.Proofs.Load.Accounts
import Accession.Proofs.Load.Alike
import Accession.Proofs.Load.Batches
import Accession.Proofs.Load.Dialogue
import Accession.Proofs.Load.Failures
import Accession.Proofs.Load.Foresight
import Accession.Proofs.Load.Frames
import Accession.Proofs.Load.Joins
import Accession.Proofs.Load.Places
import Accession.Proofs.Load.Plan
import Accession.Proofs.Load.Refusals
import Accession.Proofs.Load.Reload
import Accession.Proofs.Load.Scopes
import Accession.Proofs.Load.Sessions
import Accession.Proofs.Load.Stacks
import Accession.Proofs.Load.Tally
import Accession.Proofs.Load.Tour
import Accession.Proofs.Load.Visits
import Accession.Proofs.Mapping.Addresses
import Accession.Proofs.Mapping.Drafts
import Accession.Proofs.Mapping.Entries
import Accession.Proofs.Mapping.Followed
import Accession.Proofs.Mapping.Kept
import Accession.Proofs.Mapping.Spellings
import Accession.Proofs.Mapping.Trails
import Accession.Proofs.Memory.Again
import Accession.Proofs.Memory.Coerced
import Accession.Proofs.Memory.Conflicts
import Accession.Proofs.Memory.Conformance
import Accession.Proofs.Memory.Effect
import Accession.Proofs.Memory.Found
import Accession.Proofs.Memory.Gains
import Accession.Proofs.Memory.Keys
import Accession.Proofs.Memory.Nested
import Accession.Proofs.Memory.References
import Accession.Proofs.Memory.Refusals
import Accession.Proofs.Memory.Requests
import Accession.Proofs.Memory.Size
import Accession.Proofs.Memory.Snapshots
import Accession.Proofs.Memory.Upsert
import Accession.Proofs.Record.Layouts
import Accession.Proofs.Record.Tags
import Accession.Proofs.Sql.Agreement
import Accession.Proofs.Sql.Like
import Accession.Proofs.Sql.Pattern
import Accession.Proofs.Sql.Query
import Accession.Proofs.Sql.Reader
import Accession.Proofs.Sql.Texts
import Accession.Proofs.Sql.Token
import Accession.Proofs.Store.Calls
import Accession.Proofs.Store.Faults
import Accession.Proofs.Store.Integers
import Accession.Proofs.Store.Lookups
import Accession.Proofs.Store.Names
import Accession.Proofs.Store.Numbers
import Accession.Proofs.Store.Trace
import Accession.Proofs.Text.Blanks
import Accession.Proofs.Text.Lines
import Accession.Proofs.Text.Lowered
import Accession.Proofs.Text.Pieces
import Accession.Record.Basic
import Accession.Record.Layout
import Accession.Record.Tag
import Accession.Store.Backend
import Accession.Store.Error
import Accession.Store.Filter
import Accession.Store.Memory
import Accession.Store.Pool
import Accession.Store.Probe
import Accession.Store.Schema
import Accession.Store.Schema.Document
import Accession.Store.Statement
import Accession.Store.TextMatch
import Accession.Store.Upsert
import Accession.Store.Value
import Accession.Text.Blank
import Accession.Text.Casing
import Accession.Text.Casing.Table
import Accession.Text.Digit
import Accession.Text.Identifier
import Accession.Text.Quoted
import Accession.Text.Quoted.Table
import Accession.Text.Ranges
import Accession.Text.Search
import Accession.Yaml.Cursor
import Accession.Yaml.Decode
import Accession.Yaml.Node
import Accession.Yaml.Scalar.Block
import Accession.Yaml.Scalar.Folding
import Accession.Yaml.Scalar.Plain
import Accession.Yaml.Scalar.Quoted
import Accession.Yaml.Token
import Accession.Yaml.Value
