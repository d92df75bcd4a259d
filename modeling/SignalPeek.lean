import SignalPeek.Config
import SignalPeek.Consumer
import SignalPeek.Demand
import SignalPeek.Fault.Basic
import SignalPeek.Fault.Companion
import SignalPeek.Fault.Severity
import SignalPeek.Fault.Text
import SignalPeek.Fault.Wrapping
import SignalPeek.Hooks
import SignalPeek.Layer.Basic
import SignalPeek.Layer.Introspection
import SignalPeek.Layer.Logged
import SignalPeek.Layer.Session
import SignalPeek.Notice
import SignalPeek.Operator
import SignalPeek.Phase
import SignalPeek.Probe
import SignalPeek.Proofs.Absorption
import SignalPeek.Proofs.Accumulation
import SignalPeek.Proofs.Backpressure
import SignalPeek.Proofs.Concert
import SignalPeek.Proofs.Conduct
import SignalPeek.Proofs.DoubleFault
import SignalPeek.Proofs.Emission
import SignalPeek.Proofs.Escape
import SignalPeek.Proofs.Fates
import SignalPeek.Proofs.Grounds
import SignalPeek.Proofs.Handing
import SignalPeek.Proofs.HookOrder
import SignalPeek.Proofs.Legality
import SignalPeek.Proofs.Logging
import SignalPeek.Proofs.Mishaps
import SignalPeek.Proofs.NormalForm
import SignalPeek.Proofs.Observation
import SignalPeek.Proofs.Passing
import SignalPeek.Proofs.Provenance
import SignalPeek.Proofs.Reception
import SignalPeek.Proofs.Recurrence
import SignalPeek.Proofs.Replacement
import SignalPeek.Proofs.Reply
import SignalPeek.Proofs.Rerouting
import SignalPeek.Proofs.Rethrowing
import SignalPeek.Proofs.Routing
import SignalPeek.Proofs.Run
import SignalPeek.Proofs.SeedFailures
import SignalPeek.Proofs.Separation
import SignalPeek.Proofs.Stillness
import SignalPeek.Proofs.Threading
import SignalPeek.Proofs.Traffic
import SignalPeek.Proofs.Transparency
import SignalPeek.Proofs.Travel
import SignalPeek.Proofs.Turn
import SignalPeek.Proofs.Unwrapping
import SignalPeek.Proofs.Visibility
import SignalPeek.Publisher
import SignalPeek.Record
import SignalPeek.Script.Bench
import SignalPeek.Script.Consumer
import SignalPeek.Script.Hooks
import SignalPeek.Script.Item
import SignalPeek.Script.Numbering
import SignalPeek.Script.Pipeline
import SignalPeek.Script.Register
import SignalPeek.Script.Report
import SignalPeek.Script.Settings
import SignalPeek.Script.Steps
import SignalPeek.Signal
import SignalPeek.Source
import SignalPeek.Subscriber
import SignalPeek.Text.Hidden
import SignalPeek.Text.Quoted
import SignalPeek.Trace
