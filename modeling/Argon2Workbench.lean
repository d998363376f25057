import Argon2Workbench.Allocator
import Argon2Workbench.Allocator.Pool
import Argon2Workbench.Buffer
import Argon2Workbench.Bytes
import Argon2Workbench.CommandLine.Help
import Argon2Workbench.CommandLine.Number
import Argon2Workbench.CommandLine.Parameter
import Argon2Workbench.CommandLine.Parameters
import Argon2Workbench.CommandLine.Reading
import Argon2Workbench.CommandLine.Word
import Argon2Workbench.Context.Basic
import Argon2Workbench.Context.Invocation
import Argon2Workbench.Context.Preset
import Argon2Workbench.Context.Record
import Argon2Workbench.Fault
import Argon2Workbench.Files
import Argon2Workbench.Files.Reading
import Argon2Workbench.Hash.Argon2.Block
import Argon2Workbench.Hash.Argon2.Inputs
import Argon2Workbench.Hash.Argon2.Memory
import Argon2Workbench.Hash.Argon2.Status
import Argon2Workbench.Hash.Blake2b
import Argon2Workbench.Hash.Words
import Argon2Workbench.Host
import Argon2Workbench.Json.Display
import Argon2Workbench.Json.Reader
import Argon2Workbench.Json.Value
import Argon2Workbench.Json.Writer
import Argon2Workbench.Live
import Argon2Workbench.Log.Entry
import Argon2Workbench.Log.Moment
import Argon2Workbench.Log.Record
import Argon2Workbench.Log.Stream
import Argon2Workbench.Main
import Argon2Workbench.Measure.Benchmark
import Argon2Workbench.Measure.CycleCounter
import Argon2Workbench.Measure.Grid
import Argon2Workbench.Measure.Sample
import Argon2Workbench.Measure.Series
import Argon2Workbench.Number.Binary64
import Argon2Workbench.Number.Decimal
import Argon2Workbench.Number.Numeral
import Argon2Workbench.Number.Power
import Argon2Workbench.PasswordBuffer
import Argon2Workbench.Phc
import Argon2Workbench.Range
import Argon2Workbench.RunReport
import Argon2Workbench.Scenario
import Argon2Workbench.Session.Program
import Argon2Workbench.Session.Run
import Argon2Workbench.Session.Vectors
import Argon2Workbench.Settings
import Argon2Workbench.Survey.Options
import Argon2Workbench.Survey.Program
import Argon2Workbench.Template
import Argon2Workbench.Template.Directive
import Argon2Workbench.Template.Figure
import Argon2Workbench.Text.Blank
import Argon2Workbench.Text.DecimalDigit
import Argon2Workbench.Text.Encodable
import Argon2Workbench.Text.Printable
import Argon2Workbench.Text.Quoted
import Argon2Workbench.Text.Rune
import Argon2Workbench.Text.Uppercase
import Argon2Workbench.Text.Utf8
import Argon2Workbench.Proofs.CommandLine.Line
import Argon2Workbench.Proofs.CommandLine.Carried
import Argon2Workbench.Proofs.CommandLine.Passes
import Argon2Workbench.Proofs.Text.Received
import Argon2Workbench.Proofs.CommandLine.Grammar
import Argon2Workbench.Proofs.Number.Rounding
import Argon2Workbench.Proofs.Number.Scaling
import Argon2Workbench.Proofs.Context.Invocation
import Argon2Workbench.Proofs.Context.Supply
import Argon2Workbench.Proofs.Phc
import Argon2Workbench.Proofs.Context.Presets
import Argon2Workbench.Proofs.Files
import Argon2Workbench.Proofs.Scenario.Steps
import Argon2Workbench.Proofs.CommandLine.Asked
import Argon2Workbench.Proofs.Session.Program
import Argon2Workbench.Proofs.Session.Run
import Argon2Workbench.Proofs.Session.Report
import Argon2Workbench.Proofs.Measure.Benchmark
import Argon2Workbench.Proofs.Session.Vectors
import Argon2Workbench.Proofs.Session.Exit
import Argon2Workbench.Proofs.Context.Construction
import Argon2Workbench.Proofs.Context.Independence
import Argon2Workbench.Proofs.Context.Sequence
import Argon2Workbench.Proofs.Context.Record
import Argon2Workbench.Proofs.Scenario.Recording
import Argon2Workbench.Proofs.Session.Wrapped
import Argon2Workbench.Proofs.Scenario.Keeping
import Argon2Workbench.Proofs.Scenario.Files
import Argon2Workbench.Proofs.Session.Lifecycle
import Argon2Workbench.Proofs.Scenario.Frame
import Argon2Workbench.Proofs.Context.Marshalling
import Argon2Workbench.Proofs.Measure.Reading
import Argon2Workbench.Proofs.Measure.Point
import Argon2Workbench.Proofs.Measure.Course
import Argon2Workbench.Proofs.Measure.Protocol
import Argon2Workbench.Proofs.Measure.Coverage
import Argon2Workbench.Proofs.Allocator.Account
import Argon2Workbench.Proofs.Allocator.Books
import Argon2Workbench.Proofs.Context.Lifetime
import Argon2Workbench.Proofs.Text.Pieces
import Argon2Workbench.Proofs.CommandLine.Row
import Argon2Workbench.Proofs.CommandLine.Veil
import Argon2Workbench.Proofs.Scenario.Lockstep
import Argon2Workbench.Proofs.Context.Secrecy
import Argon2Workbench.Proofs.Session.Secrecy
import Argon2Workbench.Proofs.Text.Encoded
import Argon2Workbench.Proofs.Files.History
import Argon2Workbench.Proofs.Scenario.Handles
import Argon2Workbench.Proofs.Text.Lines
import Argon2Workbench.Proofs.Session.Reporting
import Argon2Workbench.Proofs.Text.Reader
import Argon2Workbench.Proofs.Context.Readback
import Argon2Workbench.Proofs.Context.Reservation
import Argon2Workbench.Proofs.Scenario.Allocation
import Argon2Workbench.Proofs.Session.Regeneration
import Argon2Workbench.Proofs.Session.Release
import Argon2Workbench.Proofs.Session.Frequency
import Argon2Workbench.Proofs.Number.Numeral
import Argon2Workbench.Proofs.CommandLine.Number
import Argon2Workbench.Proofs.Number.Order
import Argon2Workbench.Proofs.Measure.Ascent
import Argon2Workbench.Proofs.Number.Nearest
import Argon2Workbench.Proofs.Measure.Report
import Argon2Workbench.Proofs.Measure.Fitting
import Argon2Workbench.Proofs.Survey.Program
import Argon2Workbench.Proofs.CommandLine.Pairing
import Argon2Workbench.Proofs.Log.Handlers
import Argon2Workbench.Proofs.Json.Strings
import Argon2Workbench.Proofs.Json.Values
import Argon2Workbench.Proofs.Log.Content
