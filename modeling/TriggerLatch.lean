import TriggerLatch.Calendar.Date
import TriggerLatch.Calendar.Timestamp
import TriggerLatch.Calendar.Timestamp.Reader
import TriggerLatch.Config.Basic
import TriggerLatch.Config.Reader
import TriggerLatch.Config.Variable
import TriggerLatch.Config.Writer
import TriggerLatch.Decimal.Binary64
import TriggerLatch.Decimal.Literal
import TriggerLatch.Decimal.Natural
import TriggerLatch.Decimal.Rounding
import TriggerLatch.Decimal.Shortest
import TriggerLatch.Device.Basic
import TriggerLatch.Device.Command
import TriggerLatch.Device.Daemon
import TriggerLatch.Duration
import TriggerLatch.Feed
import TriggerLatch.Files.Access
import TriggerLatch.Files.Fault
import TriggerLatch.Files.Tree
import TriggerLatch.Indicator
import TriggerLatch.Json.Document
import TriggerLatch.Json.Field
import TriggerLatch.Json.Token
import TriggerLatch.Latch.Basic
import TriggerLatch.Latch.Cell
import TriggerLatch.Latch.Interleaving
import TriggerLatch.Line
import TriggerLatch.Link
import TriggerLatch.Main
import TriggerLatch.Monitor.BaseUrl
import TriggerLatch.Monitor.Basic
import TriggerLatch.Monitor.Command
import TriggerLatch.Monitor.Exchange
import TriggerLatch.Monitor.Launch
import TriggerLatch.Monitor.Options
import TriggerLatch.Monitor.Report
import TriggerLatch.Monitor.Seconds
import TriggerLatch.Monitor.Session
import TriggerLatch.Monitor.Settings
import TriggerLatch.Monitor.Tracker
import TriggerLatch.Monitor.Url
import TriggerLatch.Net.Endpoint
import TriggerLatch.Net.Endpoint.Reader
import TriggerLatch.Notice
import TriggerLatch.Panel
import TriggerLatch.Path.Basic
import TriggerLatch.Path.Extension
import TriggerLatch.Path.Steps
import TriggerLatch.Proofs.Config.RoundTrip
import TriggerLatch.Proofs.Config.Verdicts
import TriggerLatch.Proofs.Device.Display
import TriggerLatch.Proofs.Device.Durable
import TriggerLatch.Proofs.Device.History
import TriggerLatch.Proofs.Device.Panics
import TriggerLatch.Proofs.Device.Refinement
import TriggerLatch.Proofs.Device.Sampling
import TriggerLatch.Proofs.Device.Shown
import TriggerLatch.Proofs.Device.Shutdown
import TriggerLatch.Proofs.Device.Tasks
import TriggerLatch.Proofs.Device.Timetable
import TriggerLatch.Proofs.Device.Wear
import TriggerLatch.Proofs.Latch.Acknowledged
import TriggerLatch.Proofs.Latch.Convergence
import TriggerLatch.Proofs.Latch.Results
import TriggerLatch.Proofs.Monitor.Agreement
import TriggerLatch.Proofs.Monitor.BaseUrl
import TriggerLatch.Proofs.Monitor.Failures
import TriggerLatch.Proofs.Store.Damaged
import TriggerLatch.Proofs.Store.Keys
import TriggerLatch.Proofs.Supervision.Budget
import TriggerLatch.Proofs.Supervision.Reported
import TriggerLatch.Proofs.Supervision.Streaks
import TriggerLatch.Proofs.Surface.Publication
import TriggerLatch.Service
import TriggerLatch.Store.Basic
import TriggerLatch.Store.Error
import TriggerLatch.Store.Key
import TriggerLatch.Store.Record
import TriggerLatch.Store.RecordPath
import TriggerLatch.Store.Script
import TriggerLatch.Supervision.Attach
import TriggerLatch.Supervision.Basic
import TriggerLatch.Supervision.Policy
import TriggerLatch.Supervision.Watch
import TriggerLatch.Surface.Body
import TriggerLatch.Surface.Interleaving
import TriggerLatch.Surface.Request
import TriggerLatch.Surface.Router
import TriggerLatch.Text.Blank
import TriggerLatch.Text.Hex
import TriggerLatch.Text.Quoted
import TriggerLatch.Text.Unprintable
import TriggerLatch.Text.Utf8
