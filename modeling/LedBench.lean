import LedBench.Bench.Bus
import LedBench.Bench.DataMemory
import LedBench.Bench.Describe
import LedBench.Bench.Event
import LedBench.Bench.Log
import LedBench.Bench.Machine
import LedBench.Bench.Metrics
import LedBench.Bench.Port
import LedBench.Bench.SimulationError
import LedBench.Bench.Snapshot
import LedBench.Bench.Trace
import LedBench.Bench.Watchdog
import LedBench.Bench.Wire
import LedBench.Chip.Builtin
import LedBench.Chip.Check
import LedBench.Chip.Descriptor
import LedBench.Chip.Digest
import LedBench.Chip.Size
import LedBench.Chip.Wire
import LedBench.CommandLine.Arguments
import LedBench.CommandLine.Console
import LedBench.CommandLine.ExitCode
import LedBench.CommandLine.Perform
import LedBench.CommandLine.Session
import LedBench.CommandLine.Summary
import LedBench.CommandLine.Switch
import LedBench.Counter
import LedBench.Files.Path
import LedBench.Files.Store
import LedBench.Files.Tree
import LedBench.Firmware.Blinker
import LedBench.Firmware.ConfigBits
import LedBench.Firmware.FlatMemory
import LedBench.Firmware.Hardware
import LedBench.Firmware.Target
import LedBench.Halt
import LedBench.HexFile
import LedBench.Json.Basic
import LedBench.Json.Reader
import LedBench.Json.Source
import LedBench.Json.Token
import LedBench.Load
import LedBench.Main
import LedBench.Manifest
import LedBench.Number.Decimal
import LedBench.Number.Fixed
import LedBench.PinRef
import LedBench.Proofs.Bus.Clock
import LedBench.Proofs.Bus.Contents
import LedBench.Proofs.Chip.Sound
import LedBench.Run.Simulation
import LedBench.Run.TestResult
import LedBench.Run.Verdict
import LedBench.Script.Basic
import LedBench.Script.Describe
import LedBench.Script.Wire
import LedBench.Sha256
import LedBench.Text.Blank
import LedBench.Text.Digits
import LedBench.Text.Listing
import LedBench.Text.Numeric
import LedBench.Text.Quoted
import LedBench.Text.Range
import LedBench.Text.Unprintable
import LedBench.Wire.Source
import LedBench.Yaml.Cursor
import LedBench.Yaml.Kind
import LedBench.Yaml.Node
import LedBench.Yaml.Printer
import LedBench.Yaml.Scalar
import LedBench.Yaml.Source
import LedBench.Yaml.Token
import LedBench.Yaml.Written
import LedBench.Proofs.Bus.View
import LedBench.Proofs.Bus.Program
import LedBench.Proofs.Machine.Command
import LedBench.Proofs.Machine.Turn
import LedBench.Proofs.Bus.Build
import LedBench.Proofs.Machine.Ready
import LedBench.Proofs.Machine.Boot
import LedBench.Proofs.Watchdog.Schedule
import LedBench.Proofs.Led.Lamp
import LedBench.Proofs.Led.Wiring
import LedBench.Proofs.Led.Program
import LedBench.Proofs.Led.Tracking
import LedBench.Proofs.Firmware.Flat
import LedBench.Proofs.Led.Refinement
import LedBench.Proofs.Led.Agreement
import LedBench.Proofs.Led.Toggles
import LedBench.Proofs.Bus.History
import LedBench.Proofs.Run.Faultless
import LedBench.Proofs.Led.Intervals
import LedBench.Proofs.Bus.Later
import LedBench.Proofs.Bus.Residue
import LedBench.Proofs.Machine.Restart
import LedBench.Proofs.Bus.PinChanges
import LedBench.Proofs.Machine.Reports
import LedBench.Proofs.Machine.Accounts
import LedBench.Proofs.Watchdog.Disabled
import LedBench.Proofs.Machine.Overflow
import LedBench.Proofs.Machine.Transcript
import LedBench.Proofs.Run.Blinking
import LedBench.Proofs.Watchdog.Decoder
import LedBench.Proofs.Snapshot.Capture
import LedBench.Proofs.Trace.Record
import LedBench.Proofs.Run.Limits
import LedBench.Proofs.CommandLine.Verdict
import LedBench.Proofs.Json.Formats
import LedBench.Proofs.Bus.Task
import LedBench.Proofs.Bus.Faults
import LedBench.Proofs.Machine.Refusal
import LedBench.Proofs.Bus.Pins
import LedBench.Proofs.Firmware.Footprint
import LedBench.Proofs.Firmware.Endless
import LedBench.Proofs.Chip.FirstDefect
import LedBench.Proofs.Bus.Decoding
import LedBench.Proofs.Connection.Grammar
import LedBench.Proofs.Connection.Reach
import LedBench.Proofs.HexFile.Reading
import LedBench.Proofs.Bus.Digital
import LedBench.Proofs.Watchdog.Expiry
import LedBench.Proofs.Watchdog.Ledger
import LedBench.Proofs.Bus.Reset
import LedBench.Proofs.Machine.Confined
