import MeterLine.Bench.Caller
import MeterLine.Bench.Inbox
import MeterLine.Bench.MeterBus
import MeterLine.Bench.Metering
import MeterLine.Bench.Script
import MeterLine.Bench.ScriptedLine
import MeterLine.Bench.WorkerRig
import MeterLine.Bench.World
import MeterLine.Bytes
import MeterLine.Crc
import MeterLine.Device
import MeterLine.Device.Visits
import MeterLine.Edition
import MeterLine.Executor
import MeterLine.Executor.Turns
import MeterLine.Failure
import MeterLine.Failure.Kind
import MeterLine.Frame.Field
import MeterLine.Frame.Request
import MeterLine.Function
import MeterLine.Health
import MeterLine.Json
import MeterLine.Json.Access
import MeterLine.Json.Decode
import MeterLine.Json.Numeral
import MeterLine.Json.Parser
import MeterLine.Json.Printer
import MeterLine.Measurement
import MeterLine.Number.Binary
import MeterLine.Number.Layout
import MeterLine.Number.Shortest
import MeterLine.Number.Single
import MeterLine.Payload
import MeterLine.Port
import MeterLine.Port.Event
import MeterLine.Port.Exchange
import MeterLine.Port.Line
import MeterLine.Port.Wire
import MeterLine.Port.Worker
import MeterLine.Proofs.Port.History
import MeterLine.Proofs.Port.Resolution
import MeterLine.Proofs.Port.Supervisor
import MeterLine.Proofs.Port.Turn
import MeterLine.Reading
import MeterLine.Register
import MeterLine.Registry
import MeterLine.Settings.Adapter
import MeterLine.Settings.Device
import MeterLine.Settings.Fault
import MeterLine.Settings.Port
import MeterLine.Settings.Retry
import MeterLine.Terminal
import MeterLine.Terminal.Path
import MeterLine.Text.Blank
import MeterLine.Text.Quoted
import MeterLine.Text.Unprinted
import MeterLine.Traffic
import MeterLine.Proofs.Execution.Attempts
import MeterLine.Proofs.Execution.Coverage
import MeterLine.Proofs.Execution.Deadline
import MeterLine.Proofs.Execution.Exhaustion
import MeterLine.Proofs.Port.Moves
import MeterLine.Proofs.Port.Order
import MeterLine.Proofs.Port.Feed
import MeterLine.Proofs.Port.Standing
import MeterLine.Proofs.Port.Watching
import MeterLine.Proofs.Sharing.Frames
import MeterLine.Proofs.Sharing.Metered
import MeterLine.Proofs.Sharing.Serving
import MeterLine.Proofs.Sharing.Book
import MeterLine.Proofs.Sharing.Clients
import MeterLine.Proofs.Sharing.Shared
import MeterLine.Proofs.Port.Handles
import MeterLine.Proofs.Port.Waiters
import MeterLine.Proofs.Port.Plan
import MeterLine.Proofs.Port.Grace
import MeterLine.Proofs.Port.Counting
import MeterLine.Proofs.Port.Bearing
import MeterLine.Proofs.Port.Disposal
import MeterLine.Proofs.Port.Closing
import MeterLine.Proofs.Settings.Valid
import MeterLine.Proofs.Registry.Startup
import MeterLine.Proofs.Number.Rounding
import MeterLine.Proofs.Number.Search
import MeterLine.Proofs.Number.Moderate
import MeterLine.Proofs.Number.Bits
import MeterLine.Proofs.Json.Numerals
import MeterLine.Proofs.Json.ReadBack
import MeterLine.Proofs.Json.Decimals
import MeterLine.Proofs.Json.Measured
import MeterLine.Proofs.Reading.Scaled
import MeterLine.Proofs.Reading.ReadBack
import MeterLine.Proofs.Port.Pace
import MeterLine.Proofs.Port.Silence
import MeterLine.Proofs.Port.Stream
import MeterLine.Proofs.Port.Leaving
import MeterLine.Proofs.Execution.Records
import MeterLine.Proofs.Port.LeftOver
import MeterLine.Proofs.Port.Announced
import MeterLine.Proofs.Check.Register
import MeterLine.Proofs.Check.Stamp
import MeterLine.Proofs.Check.Period
import MeterLine.Proofs.Check.Remainder
import MeterLine.Proofs.Check.Corruption
import MeterLine.Proofs.Frame.Sendable
import MeterLine.Proofs.Settings.Acceptance
import MeterLine.Proofs.Json.Stored
import MeterLine.Proofs.Device.Calls
import MeterLine.Proofs.Port.Trouble
import MeterLine.Proofs.Port.Reopening
import MeterLine.Proofs.Health.Summary
import MeterLine.Proofs.Frame.BigEndian
import MeterLine.Proofs.Frame.Reads
