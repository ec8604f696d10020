import WheeltecVcuSerial.Arithmetic.Checked
import WheeltecVcuSerial.Arithmetic.FloatFormat
import WheeltecVcuSerial.Cli.Agreement
import WheeltecVcuSerial.Cli.Conduct
import WheeltecVcuSerial.Cli.Ends
import WheeltecVcuSerial.Cli.ExitCode
import WheeltecVcuSerial.Cli.Framing
import WheeltecVcuSerial.Cli.Keys
import WheeltecVcuSerial.Cli.Main
import WheeltecVcuSerial.Cli.Pipeline
import WheeltecVcuSerial.Cli.ProcessLine
import WheeltecVcuSerial.Cli.Quit
import WheeltecVcuSerial.Cli.Reception
import WheeltecVcuSerial.Cli.Refinement
import WheeltecVcuSerial.Cli.Release
import WheeltecVcuSerial.Cli.Rounds
import WheeltecVcuSerial.Cli.Run
import WheeltecVcuSerial.Cli.Service
import WheeltecVcuSerial.Cli.Stdin
import WheeltecVcuSerial.Cli.StopDiscipline
import WheeltecVcuSerial.Config.Collection
import WheeltecVcuSerial.Config.DevicePath
import WheeltecVcuSerial.Config.FileFormat
import WheeltecVcuSerial.Config.Lines
import WheeltecVcuSerial.Config.Loader
import WheeltecVcuSerial.Config.Numbers
import WheeltecVcuSerial.Config.RuntimeConfig
import WheeltecVcuSerial.Config.SafetyLimits
import WheeltecVcuSerial.Decimal.Rounding
import WheeltecVcuSerial.Decimal.Strtoll
import WheeltecVcuSerial.Decimal.Text
import WheeltecVcuSerial.Framing.Parity
import WheeltecVcuSerial.Framing.Records
import WheeltecVcuSerial.Framing.Scan
import WheeltecVcuSerial.Ini.Document
import WheeltecVcuSerial.Monitor.Reception
import WheeltecVcuSerial.Monitor.Report
import WheeltecVcuSerial.Monitor.Run
import WheeltecVcuSerial.Parser.Accounting
import WheeltecVcuSerial.Parser.FeedbackParser
import WheeltecVcuSerial.Parser.Storage
import WheeltecVcuSerial.Parser.Streaming
import WheeltecVcuSerial.Process.Calls
import WheeltecVcuSerial.Process.Guard
import WheeltecVcuSerial.Process.Reception
import WheeltecVcuSerial.Protocol.Burst
import WheeltecVcuSerial.Protocol.Codec
import WheeltecVcuSerial.Protocol.Double
import WheeltecVcuSerial.Protocol.Encoding
import WheeltecVcuSerial.Protocol.Layout
import WheeltecVcuSerial.Protocol.Wire
import WheeltecVcuSerial.Session.Admission
import WheeltecVcuSerial.Session.AfterZero
import WheeltecVcuSerial.Session.Arithmetic
import WheeltecVcuSerial.Session.Coherence
import WheeltecVcuSerial.Session.Conformance
import WheeltecVcuSerial.Session.Corruption
import WheeltecVcuSerial.Session.CycleReport
import WheeltecVcuSerial.Session.EmergencyStop
import WheeltecVcuSerial.Session.Expiry
import WheeltecVcuSerial.Session.FreshRun
import WheeltecVcuSerial.Session.History
import WheeltecVcuSerial.Session.Machine
import WheeltecVcuSerial.Session.Marks
import WheeltecVcuSerial.Session.NoDeadEnd
import WheeltecVcuSerial.Session.Operations
import WheeltecVcuSerial.Session.Overflow
import WheeltecVcuSerial.Session.Permission
import WheeltecVcuSerial.Session.Presented
import WheeltecVcuSerial.Session.Recovery
import WheeltecVcuSerial.Session.Replay
import WheeltecVcuSerial.Session.ReportedState
import WheeltecVcuSerial.Session.Representation
import WheeltecVcuSerial.Session.State
import WheeltecVcuSerial.Session.StopOrder
import WheeltecVcuSerial.Session.Transition
import WheeltecVcuSerial.Session.Transmission
import WheeltecVcuSerial.Session.Watchdog
import WheeltecVcuSerial.Session.WireLanguage
import WheeltecVcuSerial.Session.ZeroBudget
import WheeltecVcuSerial.Session.ZeroFirst
import WheeltecVcuSerial.Teleop.Admission
import WheeltecVcuSerial.Teleop.Config
import WheeltecVcuSerial.Teleop.Conflict
import WheeltecVcuSerial.Teleop.Consistent
import WheeltecVcuSerial.Teleop.Controller
import WheeltecVcuSerial.Teleop.Effects
import WheeltecVcuSerial.Teleop.Increasing
import WheeltecVcuSerial.Teleop.InputEvents
import WheeltecVcuSerial.Teleop.KeyRecords
import WheeltecVcuSerial.Teleop.Keys
import WheeltecVcuSerial.Teleop.Limits
import WheeltecVcuSerial.Teleop.Main
import WheeltecVcuSerial.Teleop.Phases
import WheeltecVcuSerial.Teleop.Restart
import WheeltecVcuSerial.Teleop.RunSession
import WheeltecVcuSerial.Teleop.Spacing
import WheeltecVcuSerial.Teleop.StopDiscipline
import WheeltecVcuSerial.Teleop.Text
import WheeltecVcuSerial.Teleop.Timing
import WheeltecVcuSerial.Teleop.Writer
import WheeltecVcuSerial.Text.Arguments
import WheeltecVcuSerial.Text.Lines
import WheeltecVcuSerial.Text.Paths
import WheeltecVcuSerial.Text.Strings
import WheeltecVcuSerial.Trace.Loop
import WheeltecVcuSerial.Trace.Machine
import WheeltecVcuSerial.Trace.Procedure
import WheeltecVcuSerial.Trace.Program
import WheeltecVcuSerial.Transport.Deadline
import WheeltecVcuSerial.Transport.Ledger
import WheeltecVcuSerial.Transport.Lifecycle
import WheeltecVcuSerial.Transport.Observation
import WheeltecVcuSerial.Transport.Operations
import WheeltecVcuSerial.Transport.ReadSome
import WheeltecVcuSerial.Transport.Reception
import WheeltecVcuSerial.Transport.SerialPort
import WheeltecVcuSerial.Transport.Terminal
import WheeltecVcuSerial.Transport.WriteAll
