import StackProfiler.Capture.Scripted
import StackProfiler.Configuration.Json
import StackProfiler.CpuTime
import StackProfiler.Metric.Json
import StackProfiler.Proofs.Capture.Bounds
import StackProfiler.Proofs.Capture.Budgets
import StackProfiler.Proofs.Capture.GarbageCollection
import StackProfiler.Proofs.Capture.Screening
import StackProfiler.Proofs.Capture.Stack
import StackProfiler.Proofs.Configuration.Rendering
import StackProfiler.Proofs.Configuration.RoundTrip
import StackProfiler.Proofs.CpuTime
import StackProfiler.Proofs.Json.CutRecords
import StackProfiler.Proofs.Label.Admission
import StackProfiler.Proofs.Profile.Aggregation
import StackProfiler.Proofs.Profile.Numbering
import StackProfiler.Proofs.Recorder.Conservation
import StackProfiler.Proofs.Recorder.Contention
import StackProfiler.Proofs.Recorder.Contents
import StackProfiler.Proofs.Recorder.Delivery
import StackProfiler.Proofs.Recorder.Drops
import StackProfiler.Proofs.Recorder.Flips
import StackProfiler.Proofs.Recorder.Interleaving
import StackProfiler.Proofs.Recorder.Lockings
import StackProfiler.Proofs.Recorder.Locks
import StackProfiler.Proofs.Recorder.Period
import StackProfiler.Proofs.Recorder.Progress
import StackProfiler.Proofs.Recorder.Steady
import StackProfiler.Proofs.Recorder.StoreProtocol
import StackProfiler.Proofs.Recorder.Succession
import StackProfiler.Proofs.Recorder.Traffic
import StackProfiler.Proofs.Recorder.Turns
import StackProfiler.Proofs.Recorder.Views
import StackProfiler.Proofs.Recorder.Visits
import StackProfiler.Proofs.Recorder.Watched
import StackProfiler.Proofs.Scheduler.Aftermath
import StackProfiler.Proofs.Scheduler.Agreement
import StackProfiler.Proofs.Scheduler.Contract
import StackProfiler.Proofs.Scheduler.OwnFlushes
import StackProfiler.Proofs.Scheduler.Service
import StackProfiler.Proofs.Scheduler.Shutdown
import StackProfiler.Proofs.Scheduler.Stopping
import StackProfiler.Proofs.Scheduler.Whereabouts
import StackProfiler.Proofs.Session.Limits
import StackProfiler.Proofs.Session.Refinement
import StackProfiler.Proofs.Session.Refusals
import StackProfiler.Proofs.Wire.Compact
import StackProfiler.Proofs.Wire.Lossless
import StackProfiler.Proofs.Wire.RoundTrip
import StackProfiler.Proofs.Wire.Tables
import StackProfiler.Session.Basic
import StackProfiler.Wire.Encoding
import StackProfiler.Wire.Json
import StackProfiler.Proofs.SelfDelimiting
import StackProfiler.Proofs.Configuration.Overrides
