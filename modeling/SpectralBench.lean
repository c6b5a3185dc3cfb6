import SpectralBench.Admission
import SpectralBench.Admission.Budget
import SpectralBench.Backend
import SpectralBench.Backend.Status
import SpectralBench.Binary.Double
import SpectralBench.Binary.Format
import SpectralBench.Campaign
import SpectralBench.Campaign.Run
import SpectralBench.CommandLine.Options
import SpectralBench.CommandLine.Program
import SpectralBench.CommandLine.Sources
import SpectralBench.CommandLine.Switch
import SpectralBench.CommandLine.Usage
import SpectralBench.Configuration
import SpectralBench.Cpu.Axis
import SpectralBench.Cpu.Complex
import SpectralBench.Cpu.Engine
import SpectralBench.Cpu.Estimate
import SpectralBench.Cpu.Fourier
import SpectralBench.Cpu.Plan
import SpectralBench.Cpu.Platform
import SpectralBench.Cpu.Scalar
import SpectralBench.Cpu.State
import SpectralBench.Decimal.Natural
import SpectralBench.Decimal.Real
import SpectralBench.Decimal.Scientific
import SpectralBench.Decimal.Shortest
import SpectralBench.Documents
import SpectralBench.Extent
import SpectralBench.Extent.Listing
import SpectralBench.Failure
import SpectralBench.Failure.Misconfiguration
import SpectralBench.Failure.Shortage
import SpectralBench.Files
import SpectralBench.Files.Path
import SpectralBench.Files.Tree
import SpectralBench.Files.Writer
import SpectralBench.Geometry
import SpectralBench.Geometry.Rows
import SpectralBench.Journal.Collected
import SpectralBench.Journal.Csv
import SpectralBench.Journal.Format
import SpectralBench.Journal.JsonLines
import SpectralBench.Journal.Record
import SpectralBench.Json.Decode
import SpectralBench.Json.Fault
import SpectralBench.Json.Library
import SpectralBench.Json.Node
import SpectralBench.Json.Node.Number
import SpectralBench.Json.Node.Reader
import SpectralBench.Json.Node.Text
import SpectralBench.Json.Value
import SpectralBench.Log
import SpectralBench.Log.Filter
import SpectralBench.Machine
import SpectralBench.Machine.Accounts
import SpectralBench.Main
import SpectralBench.Measure.Duration
import SpectralBench.Measure.Engine
import SpectralBench.Measure.Moment
import SpectralBench.Measure.Phase
import SpectralBench.Measure.Session
import SpectralBench.Measure.Stopwatch
import SpectralBench.Parameter
import SpectralBench.Random.ChaCha
import SpectralBench.Random.Draw
import SpectralBench.Random.Seed
import SpectralBench.RoundTrip.Deviation
import SpectralBench.RoundTrip.Stimulus
import SpectralBench.Text.Blank
import SpectralBench.Text.CharSet
import SpectralBench.Text.CharSet.Encoded
import SpectralBench.Text.Hexadecimal
import SpectralBench.Text.Letter
import SpectralBench.Text.Pattern
import SpectralBench.Text.Pattern.Bracket
import SpectralBench.Text.Pattern.Escape
import SpectralBench.Text.Pattern.Mode
import SpectralBench.Text.Pattern.Reader
import SpectralBench.Text.Pattern.Weight
import SpectralBench.Text.Plain
import SpectralBench.Text.Quoted
import SpectralBench.Text.Runs
import SpectralBench.Text.Split
import SpectralBench.Word
import SpectralBench.Workspace.Program
import SpectralBench.Workspace.Settings
import SpectralBench.Workspace.Task
import SpectralBench.Workspace.Toolkit
import SpectralBench.Proofs.Session
import SpectralBench.Proofs.Campaign
import SpectralBench.Proofs.Campaign.Custody
import SpectralBench.Proofs.Campaign.Lifetime
import SpectralBench.Proofs.Campaign.RecordGrammar
import SpectralBench.Proofs.Cpu.Axes
import SpectralBench.Proofs.Cpu.Execution
import SpectralBench.Proofs.Cpu.RoundTrip
import SpectralBench.Proofs.Session.Timing
import SpectralBench.Proofs.Session.CallLanguage
import SpectralBench.Proofs.Geometry.Exactness
import SpectralBench.Proofs.Cpu.Spectrum
import SpectralBench.Proofs.Campaign.Stream
import SpectralBench.Proofs.Binary
import SpectralBench.Proofs.Admission
import SpectralBench.Proofs.Campaign.TrialCount
import SpectralBench.Proofs.Campaign.Conduct
import SpectralBench.Proofs.Decimal
import SpectralBench.Proofs.Configuration
import SpectralBench.Proofs.Journal
import SpectralBench.Proofs.Journal.Csv
import SpectralBench.Proofs.Json
import SpectralBench.Proofs.Json.Library
import SpectralBench.Proofs.Journal.JsonLines
import SpectralBench.Proofs.Cpu.Contract
import SpectralBench.Proofs.Cpu.Transforms
import SpectralBench.Proofs.Cpu.Totality
import SpectralBench.Proofs.Cpu.Calls
import SpectralBench.Proofs.Cpu.Upkeep
import SpectralBench.Proofs.Cpu.Invariant
import SpectralBench.Proofs.Cpu.History
import SpectralBench.Proofs.Cpu.Attendance
import SpectralBench.Proofs.Cpu.Soundness
import SpectralBench.Proofs.Admission.Diagnosis
import SpectralBench.Proofs.Session.Release
import SpectralBench.Proofs.Journal.Csv.Comments
import SpectralBench.Proofs.Campaign.Refusal
import SpectralBench.Proofs.Parting
import SpectralBench.Proofs.Campaign.Parting
import SpectralBench.Proofs.Geometry.Shortfall
import SpectralBench.Proofs.RoundTrip
import SpectralBench.Proofs.Campaign.Verdict
import SpectralBench.Proofs.RoundTrip.Rejection
import SpectralBench.Proofs.Binary.Rounding
import SpectralBench.Proofs.Random
import SpectralBench.Proofs.RoundTrip.Stimulus
import SpectralBench.Proofs.RoundTrip.Range
import SpectralBench.Proofs.Cpu.Estimate
import SpectralBench.Proofs.Text
import SpectralBench.Proofs.Decimal.Numeral
import SpectralBench.Proofs.Extent.Grammar
import SpectralBench.Proofs.Extent.Listing
import SpectralBench.Proofs.Workspace.Features
import SpectralBench.Proofs.Campaign.Correspondence
import SpectralBench.Proofs.Campaign.Grid
import SpectralBench.Proofs.CommandLine.Sources
import SpectralBench.Proofs.CommandLine.Teardown
import SpectralBench.Proofs.Cpu.AxisByAxis
