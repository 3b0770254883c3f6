import BenchQueue.Main
import BenchQueue.Rehearsal.ProviderStep
import BenchQueue.Rehearsal.RunStep
import BenchQueue.Rehearsal.WorkerProcess
import BenchQueue.Proofs.Flow
import BenchQueue.Proofs.Scheduling.Holding
import BenchQueue.Proofs.Scheduling.Queue
import BenchQueue.Proofs.Scheduling.Slots
import BenchQueue.Proofs.Scheduling.Runs
import BenchQueue.Proofs.Scheduling.Ceiling
import BenchQueue.Proofs.Scheduling.Order
import BenchQueue.Proofs.Run.Recording
import BenchQueue.Proofs.Run.Verdict
import BenchQueue.Proofs.Scheduling.Resubmission
import BenchQueue.Proofs.Comparison.Messages
import BenchQueue.Proofs.Run.Deadline
import BenchQueue.Proofs.Run.StatusOrder
import BenchQueue.Proofs.Scheduling.Breakdown
import BenchQueue.Proofs.Scheduling.SameWork
import BenchQueue.Proofs.Measurement.Collection
import BenchQueue.Proofs.Scheduling.Shutdown
import BenchQueue.Proofs.Scheduling.Finished
import BenchQueue.Proofs.Run.InStep
import BenchQueue.Proofs.Store.Statement
import BenchQueue.Proofs.Worker.SameHead
import BenchQueue.Proofs.Worker.Listeners
import BenchQueue.Proofs.Scheduling.Accounting
import BenchQueue.Proofs.Scheduling.Admissions
import BenchQueue.Proofs.Run.Release
import BenchQueue.Proofs.Run.Exclusion
import BenchQueue.Proofs.Store.Recency
import BenchQueue.Proofs.Store.History
import BenchQueue.Proofs.Scheduling.Bookkeeping
import BenchQueue.Proofs.Worker.CommitSubmission
import BenchQueue.Proofs.Comparison.Budget
import BenchQueue.Proofs.Worker.ComparisonTime
import BenchQueue.Proofs.Measurement.FunctionNames
import BenchQueue.Proofs.Worker.Overrides
import BenchQueue.Proofs.Json.Configuration
import BenchQueue.Proofs.Run.Document
import BenchQueue.Proofs.Text.ByteOrder
import BenchQueue.Proofs.Measurement.Regressions
import BenchQueue.Proofs.Run.CallLog
import BenchQueue.Proofs.Run.Preparation
import BenchQueue.Proofs.Run.Handover
import BenchQueue.Proofs.Scheduling.Spacing
