import SocketCensus.Bytes.Hex
import SocketCensus.Bytes.LittleEndian
import SocketCensus.CommandLine.ErrorReport
import SocketCensus.CommandLine.Options
import SocketCensus.CommandLine.Run
import SocketCensus.Discovery.Marker
import SocketCensus.Discovery.SocketTool
import SocketCensus.Entry.Counters
import SocketCensus.Entry.Key
import SocketCensus.Entry.MapTool
import SocketCensus.Entry.TrafficMap
import SocketCensus.Entry.Write
import SocketCensus.Log
import SocketCensus.Main
import SocketCensus.Number.Binary64
import SocketCensus.Number.Decimal
import SocketCensus.Number.Shortest
import SocketCensus.Pass.Reconcile
import SocketCensus.Pass.Schedule
import SocketCensus.Pass.Session
import SocketCensus.Pass.Summary
import SocketCensus.Pass.Window
import SocketCensus.Pass.World
import SocketCensus.Pid
import SocketCensus.Program.Duration
import SocketCensus.Program.Folder
import SocketCensus.Program.Launch
import SocketCensus.Program.SystemError
import SocketCensus.Program.Toolbox
import SocketCensus.Program.WaitStatus
import SocketCensus.Proofs.Bytes.Hex
import SocketCensus.Proofs.CommandLine.Outcome
import SocketCensus.Proofs.CommandLine.Verbosity
import SocketCensus.Proofs.Discovery.Injection
import SocketCensus.Proofs.Discovery.Naming
import SocketCensus.Proofs.Discovery.Owners
import SocketCensus.Proofs.Discovery.Reach
import SocketCensus.Proofs.Discovery.Scan
import SocketCensus.Proofs.Discovery.Segments
import SocketCensus.Proofs.Discovery.SocketTool
import SocketCensus.Proofs.Discovery.Tokens
import SocketCensus.Proofs.Entry.Command
import SocketCensus.Proofs.Entry.Layout
import SocketCensus.Proofs.Entry.MapTool
import SocketCensus.Proofs.Entry.TrafficMap
import SocketCensus.Proofs.Number.Decimal
import SocketCensus.Proofs.Number.Numeral
import SocketCensus.Proofs.Pass.Abort
import SocketCensus.Proofs.Pass.Accounting
import SocketCensus.Proofs.Pass.Agreement
import SocketCensus.Proofs.Pass.Conservation
import SocketCensus.Proofs.Pass.Course
import SocketCensus.Proofs.Pass.DryRun
import SocketCensus.Proofs.Pass.Effect
import SocketCensus.Proofs.Pass.History
import SocketCensus.Proofs.Pass.Insertion
import SocketCensus.Proofs.Pass.Interruption
import SocketCensus.Proofs.Pass.Messages
import SocketCensus.Proofs.Pass.Overlap
import SocketCensus.Proofs.Pass.Progress
import SocketCensus.Proofs.Pass.Routing
import SocketCensus.Proofs.Pass.Session
import SocketCensus.Proofs.Pass.SummaryText
import SocketCensus.Proofs.Pass.Tools
import SocketCensus.Proofs.Settings.Absence
import SocketCensus.Proofs.Settings.Conversion
import SocketCensus.Proofs.Settings.Crash
import SocketCensus.Proofs.Settings.Document
import SocketCensus.Proofs.Settings.Fields
import SocketCensus.Proofs.Settings.Foreign
import SocketCensus.Proofs.Settings.Integers
import SocketCensus.Proofs.Settings.Layers
import SocketCensus.Proofs.Settings.Line
import SocketCensus.Proofs.Settings.Traversal
import SocketCensus.Proofs.Text.Ascii
import SocketCensus.Proofs.Text.Blocks
import SocketCensus.Settings.Conversion
import SocketCensus.Settings.KeyPath
import SocketCensus.Settings.Load
import SocketCensus.Settings.Node
import SocketCensus.Settings.Source
import SocketCensus.Settings.Toml.Document
import SocketCensus.Settings.Toml.Moment
import SocketCensus.Settings.Toml.Number
import SocketCensus.Settings.Toml.Section
import SocketCensus.Settings.Toml.Term
import SocketCensus.Settings.Toml.Token
import SocketCensus.Settings.Traversal
import SocketCensus.Text.Blank
import SocketCensus.Text.CodeRange
import SocketCensus.Text.Line
import SocketCensus.Text.Printable
import SocketCensus.Text.Quoted
import SocketCensus.Text.Utf8
import SocketCensus.Text.WordChar
