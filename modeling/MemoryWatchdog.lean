import MemoryWatchdog.Binary64
import MemoryWatchdog.Calendar
import MemoryWatchdog.CommandLine
import MemoryWatchdog.CommandLine.Options
import MemoryWatchdog.CommandLine.Texts
import MemoryWatchdog.Decimal.Layout
import MemoryWatchdog.Decimal.Shortest
import MemoryWatchdog.DumpQueue
import MemoryWatchdog.Event
import MemoryWatchdog.FileTree
import MemoryWatchdog.Handler
import MemoryWatchdog.HeapReport
import MemoryWatchdog.HeapReport.Writing
import MemoryWatchdog.Hooks
import MemoryWatchdog.Host
import MemoryWatchdog.Json
import MemoryWatchdog.Json.Reading
import MemoryWatchdog.Lifecycle
import MemoryWatchdog.Log
import MemoryWatchdog.Log.Line
import MemoryWatchdog.Main
import MemoryWatchdog.Memory
import MemoryWatchdog.Memory.Accounting
import MemoryWatchdog.Monitor
import MemoryWatchdog.Monitor.Limits
import MemoryWatchdog.Proofs.Clock
import MemoryWatchdog.Proofs.Course
import MemoryWatchdog.Proofs.Escalation
import MemoryWatchdog.Proofs.EventStream
import MemoryWatchdog.Proofs.Journal
import MemoryWatchdog.Proofs.StopRequest
import MemoryWatchdog.Proofs.Streak
import MemoryWatchdog.Proofs.StrikeAccounting
import MemoryWatchdog.Proofs.Tick
import MemoryWatchdog.Reporter
import MemoryWatchdog.Role
import MemoryWatchdog.Settings
import MemoryWatchdog.Settings.Environment
import MemoryWatchdog.Settings.File
import MemoryWatchdog.Text.Blank
import MemoryWatchdog.Text.Numeral
import MemoryWatchdog.Text.Quoted
import MemoryWatchdog.Text.Reader
import MemoryWatchdog.Text.Similarity
import MemoryWatchdog.Text.Unprintable
import MemoryWatchdog.Toml.Document
import MemoryWatchdog.Toml.Excerpt
import MemoryWatchdog.Toml.Scalar
import MemoryWatchdog.Toml.Table
import MemoryWatchdog.Watchdog
import MemoryWatchdog.Watchdog.Control
import MemoryWatchdog.Watchdog.Run
import MemoryWatchdog.Watchdog.Scene
import MemoryWatchdog.Watchdog.Strikes
import MemoryWatchdog.Watchdog.Tick
import MemoryWatchdog.Worker
import MemoryWatchdog.Proofs.Interleaving
import MemoryWatchdog.Proofs.Lifetime
import MemoryWatchdog.Proofs.Neutrality
import MemoryWatchdog.Proofs.Reporting
import MemoryWatchdog.Proofs.Readings
import MemoryWatchdog.Proofs.JobWorker
import MemoryWatchdog.Proofs.WebWorker
import MemoryWatchdog.Proofs.History
import MemoryWatchdog.Proofs.OneSupervisor
import MemoryWatchdog.Proofs.DumpRequests
import MemoryWatchdog.Proofs.DistinctKeys
import MemoryWatchdog.Proofs.Layers
import MemoryWatchdog.Proofs.Rounding
import MemoryWatchdog.Proofs.RealNumerals
import MemoryWatchdog.Proofs.Overrides
import MemoryWatchdog.Proofs.RatioLimits
import MemoryWatchdog.Proofs.StopHook
import MemoryWatchdog.Proofs.HookPanics
import MemoryWatchdog.Proofs.FileLocations
import MemoryWatchdog.Proofs.FileOperations
import MemoryWatchdog.Proofs.ReportWrites
import MemoryWatchdog.Proofs.AccountingFiles
import MemoryWatchdog.Proofs.GrowthBaseline
import MemoryWatchdog.Proofs.Stamps
import MemoryWatchdog.Proofs.ReportNames
import MemoryWatchdog.Proofs.Nearest
import MemoryWatchdog.Proofs.RatioMonitors
import MemoryWatchdog.Proofs.EventObjects
import MemoryWatchdog.Proofs.Cadence
import MemoryWatchdog.Proofs.Validation
