import LedgerView.Word
import LedgerView.Text.Blank
import LedgerView.Text.CodePoints
import LedgerView.Text.Case
import LedgerView.Text.Quoted
import LedgerView.Text.Decimal
import LedgerView.Key.Error
import LedgerView.Key.Timestamp
import LedgerView.Key.EntityId
import LedgerView.Key.Utc
import LedgerView.Units
import LedgerView.Table.Kind
import LedgerView.Table.Filter
import LedgerView.Json.Value
import LedgerView.Json.Number
import LedgerView.Json.Token
import LedgerView.Json.Parse
import LedgerView.Row.Basic
import LedgerView.Row.Decode
import LedgerView.Pager.Source
import LedgerView.Pager.Window
import LedgerView.Pager.Guard
import LedgerView.Pager.Load
import LedgerView.Nav.Error
import LedgerView.Pager.Buffer
import LedgerView.Pager.Script
import LedgerView.Pager.Slots
import LedgerView.Pager.Workbench
import LedgerView.Text.Utf8
import LedgerView.Url.Percent
import LedgerView.Url.Form
import LedgerView.Nav.Params
import LedgerView.Nav.State
import LedgerView.Nav.FilterParams
import LedgerView.Url.Punycode
import LedgerView.Url.Error
import LedgerView.Url.Address
import LedgerView.Url.Host
import LedgerView.Url.Basic
import LedgerView.Url.Parse
import LedgerView.Nav.Link
import LedgerView.Node.Client
import LedgerView.Pager.Config
import LedgerView.Pager.AutoRefresh
import LedgerView.Pager.Controller
import LedgerView.Pager.TableBench
import LedgerView.Ledger.MemoryList
import LedgerView.Ledger.Demo
import LedgerView.Node.Source
import LedgerView.Ledger.Backend
import LedgerView.Session.Snapshot
import LedgerView.Session.Basic
import LedgerView.Table.PerTable
import LedgerView.Workspace.Message
import LedgerView.Workspace.Basic
import LedgerView.Workspace.Worker
import LedgerView.Text.Hex
import LedgerView.Toml.Token
import LedgerView.Toml.Document
import LedgerView.Config.Error
import LedgerView.Config.Basic
import LedgerView.Config.Place
import LedgerView.Config.Arguments
import LedgerView.Text.Columns
import LedgerView.Viewer.Notice
import LedgerView.Viewer.Prompt
import LedgerView.Export.Csv
import LedgerView.Json.Layout
import LedgerView.Export.Basic
import LedgerView.Viewer.Basic
import LedgerView.Viewer.Keys
import LedgerView.Screen.Style
import LedgerView.Screen.Canvas
import LedgerView.Screen.Layout
import LedgerView.Screen.Draw
import LedgerView.Session.Bench
import LedgerView.Viewer.Desk
import LedgerView.Main
import LedgerView.Proofs.Source.Order
import LedgerView.Proofs.Buffer.Operation
import LedgerView.Proofs.Traffic.Basic
import LedgerView.Proofs.Traffic.Invariant
import LedgerView.Proofs.Traffic.Shape
import LedgerView.Proofs.Traffic.Order
import LedgerView.Proofs.Traffic.GapFree
import LedgerView.Proofs.Load.Whole
import LedgerView.Proofs.Traffic.Serial
import LedgerView.Proofs.Window.Page
import LedgerView.Proofs.Window.Count
import LedgerView.Proofs.Traffic.Count
import LedgerView.Proofs.Buffer.Paging
import LedgerView.Proofs.Load.Upward
import LedgerView.Proofs.Window.Shadow
import LedgerView.Proofs.Buffer.Anchored
import LedgerView.Proofs.Nav.Params
import LedgerView.Proofs.Table.Traffic
import LedgerView.Proofs.Table.Operation
import LedgerView.Proofs.Table.Record
import LedgerView.Proofs.Table.Intent
import LedgerView.Proofs.Text.Blank
import LedgerView.Proofs.Text.Decimal
import LedgerView.Proofs.Text.Utf8
import LedgerView.Proofs.Reading
import LedgerView.Proofs.Url.Form
import LedgerView.Proofs.Url.Address
import LedgerView.Proofs.Url.Host
import LedgerView.Proofs.Nav.Query
import LedgerView.Proofs.Nav.Link
import LedgerView.Proofs.Source.Chronicle
import LedgerView.Proofs.Window.Complete
import LedgerView.Proofs.Table.Landing
import LedgerView.Proofs.Table.Completed
import LedgerView.Proofs.Table.Reopen
import LedgerView.Proofs.Live.Loads
import LedgerView.Proofs.Live.Scene
import LedgerView.Proofs.Table.Scene
import LedgerView.Proofs.Table.Anew
import LedgerView.Proofs.Live.Traffic
import LedgerView.Proofs.Table.Sizes
import LedgerView.Proofs.Live.Newest
import LedgerView.Proofs.Key.Codec
import LedgerView.Proofs.Row.Codec
import LedgerView.Proofs.Nav.Filter
import LedgerView.Proofs.Workspace.Sessions
import LedgerView.Proofs.Desk.Press
import LedgerView.Proofs.Desk.Traffic
import LedgerView.Proofs.Desk.Turns
import LedgerView.Proofs.Desk.Agreement
import LedgerView.Proofs.Desk.Filters
import LedgerView.Proofs.Table.Restart
import LedgerView.Proofs.Table.Shown
import LedgerView.Proofs.Workspace.Deeds
import LedgerView.Proofs.Workspace.Refilter
import LedgerView.Proofs.Live.Vigil
import LedgerView.Proofs.Table.Aside
import LedgerView.Proofs.Traffic.Traces
import LedgerView.Proofs.Workspace.Traffic
import LedgerView.Proofs.Workspace.Coherence
import LedgerView.Proofs.Workspace.Alone
import LedgerView.Proofs.Workspace.Replay
import LedgerView.Proofs.Ledger.Register
import LedgerView.Proofs.Table.Refused
import LedgerView.Proofs.Table.Resize
import LedgerView.Proofs.Traffic.Visible
import LedgerView.Proofs.Key.Order
import LedgerView.Proofs.Ledger.Demo
import LedgerView.Proofs.Traffic.Beside
import LedgerView.Proofs.Traffic.Refresh
import LedgerView.Proofs.Load.Asked
import LedgerView.Proofs.Traffic.Retained
import LedgerView.Proofs.Window.Depth
import LedgerView.Proofs.Table.Moored
import LedgerView.Proofs.Table.Provenance
import LedgerView.Proofs.Table.FirstRow
import LedgerView.Proofs.Load.Chunked
import LedgerView.Proofs.Traffic.Checked
import LedgerView.Proofs.Table.ReadBack
import LedgerView.Proofs.Node.Carried
import LedgerView.Proofs.Text.Fraction
import LedgerView.Proofs.Units
