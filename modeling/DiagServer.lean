import DiagServer.Main
import DiagServer.Decimal.Places
import DiagServer.Posix.Number
import DiagServer.Posix.Floating
import DiagServer.Proofs.Server.Replies
import DiagServer.Proofs.Server.Tracking
import DiagServer.Proofs.Frame.Grammar
import DiagServer.Proofs.Json.Text
import DiagServer.Proofs.Json.Number
import DiagServer.Proofs.Json.RoundTrip
import DiagServer.Proofs.Frame.RoundTrip
import DiagServer.Proofs.Server.CutOff
import DiagServer.Proofs.Server.Life
import DiagServer.Proofs.Server.Noninterference
import DiagServer.Proofs.Frame.Truncation
import DiagServer.Proofs.Server.Joined
import DiagServer.Proofs.Server.Ignored
import DiagServer.Proofs.Store.History
import DiagServer.Proofs.Text.ByteOrder
import DiagServer.Proofs.Store.Snapshot
import DiagServer.Proofs.Session.LastParse
import DiagServer.Proofs.Session.Calls
import DiagServer.Proofs.Server.Systems
import DiagServer.Proofs.Server.Parses
import DiagServer.Proofs.Config.Template
import DiagServer.Proofs.Path.Components
import DiagServer.Proofs.Uri.Escape
import DiagServer.Proofs.Host.FileSystem
import DiagServer.Proofs.Check.Trace
import DiagServer.Proofs.Check.ExitCode
import DiagServer.Proofs.Check.Output
import DiagServer.Proofs.Json.Numeral
import DiagServer.Proofs.Json.Skip
import DiagServer.Proofs.Text.Lines
import DiagServer.Proofs.Text.Lossy
import DiagServer.Proofs.Json.Record
import DiagServer.Proofs.Report.Line
import DiagServer.Proofs.Toolchain.Output
import DiagServer.Proofs.Frame.Lookahead
import DiagServer.Proofs.Frame.HeaderLimit
import DiagServer.Proofs.Uri.Identity
import DiagServer.Proofs.Config.Arguments
import DiagServer.Proofs.Position
