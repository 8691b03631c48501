import Clamd.Client.Recorded
import Clamd.Main
import Clamd.Program.Rehearsal
import Clamd.Service.Rehearsal
import Clamd.Service.Worker
import Clamd.Watch.Rehearsal
import Clamd.Peer
import Clamd.Proofs.Stream.Reading
import Clamd.Proofs.Stream.RoundTrip
import Clamd.Proofs.Stream.Grammar
import Clamd.Proofs.Stream.Decoding
import Clamd.Proofs.Stream.Truncation
import Clamd.Proofs.Reply.Lines
import Clamd.Proofs.Detections
import Clamd.Proofs.Reply.FoundLine
import Clamd.Proofs.Text.Pattern
import Clamd.Proofs.Reply.FoundPattern
import Clamd.Proofs.Reply.Verdict
import Clamd.Proofs.Verdict.Order
import Clamd.Proofs.Verdict.Json
import Clamd.Proofs.Reply.Joined
import Clamd.Proofs.Client.Scan
import Clamd.Proofs.Exchange
import Clamd.Proofs.Exchange.Fragments
import Clamd.Proofs.Text.Utf8
import Clamd.Proofs.Text.Visible
import Clamd.Proofs.Exchange.Report
import Clamd.Proofs.Request
import Clamd.Proofs.Client.Snapshot
import Clamd.Proofs.Client.Delivery
import Clamd.Proofs.Client.CutOff
import Clamd.Proofs.Client.ScanAll
import Clamd.Proofs.Program.Findings
import Clamd.Proofs.Program.Rehearsal
import Clamd.Proofs.Program.ScanStatus
import Clamd.Proofs.Service.Scene
import Clamd.Proofs.Service.Lifecycle
import Clamd.Proofs.Service.Closing
import Clamd.Proofs.Rota
import Clamd.Proofs.Rota.Restart
import Clamd.Proofs.Rota.Fairness
import Clamd.Proofs.Watch.Step
import Clamd.Proofs.Watch.Scene
import Clamd.Proofs.Watch.Shutdown
import Clamd.Proofs.Watch.Stage
import Clamd.Proofs.Watch.Round
import Clamd.Proofs.Watch.Trial
import Clamd.Proofs.Watch.Panic
import Clamd.Proofs.Reply.LineEnds
import Clamd.Proofs.Reply.AnyName
import Clamd.Proofs.CommandLine.Number
import Clamd.Proofs.Settings.ChunkSize
import Clamd.Proofs.CommandLine.Reading
import Clamd.Proofs.Program.Pauses
