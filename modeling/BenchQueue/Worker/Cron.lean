import BenchQueue.Scheduling.Submission
import BenchQueue.Worker.Source
/-!
# Regular submissions

At regular times the worker submits every configured benchmark for the head of the repository. Each
is compared with the previous finished run of the same benchmark that was submitted this way. The
loop ends at any change of the stop signal; a tick that fails does not end it.
-/

namespace BenchQueue.Worker

/-- The source of the runs that are submitted at regular times. -/
def cronSource : String := "cron"

/-- The shortest time between two regular submissions. -/
def minCronInterval : Duration := .ofSeconds 1

/-- What is submitted, to which scheduler, and how often. -/
structure Cron where
  scheduler : Scheduling.Config
  source : Source
  benchmarks : List String
  runConfig : String
  interval : Duration

namespace Cron

/-- The time between two submissions, raised to the shortest one. -/
def period (c : Cron) : Duration := c.interval.max minCronInterval

/-- A failure of the store while scheduling, reported for a task. -/
def storeReport (task : String) (e : Store.Error) : Report :=
  ⟨task, [Scheduling.failureText e, e.message]⟩

/-- The identifier of a benchmark at a commit. -/
def identifier (gitRef benchmarkType : String) : Run.Identifier :=
  { source := cronSource, gitRef, benchmarkType }

/-- Submits one benchmark and answers whether it was accepted. -/
def submitBenchmark (scheduler : Scheduling.Config) (runConfig gitRef benchmarkType : String) :
    Task (Except Report Bool) := do
  match ← Scheduling.previousFinished cronSource benchmarkType gitRef with
  | .error e => pure (.error (storeReport "Failed to look up the previous cron run" e))
  | .ok previous =>
    let request : Scheduling.Request :=
      { identifier := identifier gitRef benchmarkType, configPath := runConfig,
        compareWith := previous.toList }
    match ← Scheduling.submit scheduler request with
    | .error e => pure (.error (storeReport "Failed to submit cron run" e))
    | .ok submission => pure (.ok (submission = .accepted))

/-- Submits benchmarks at a commit and answers how many were accepted. -/
def submitRef (scheduler : Scheduling.Config) (runConfig gitRef : String) :
    (benchmarks : List String) → Task (Except Report Nat)
  | [] => pure (.ok 0)
  | benchmark :: rest => do
    match ← submitBenchmark scheduler runConfig gitRef benchmark with
    | .error e => pure (.error e)
    | .ok accepted =>
      let others ← submitRef scheduler runConfig gitRef rest
      pure (others.map fun n => if accepted then n + 1 else n)

/-- Brings the clone up to date and submits its head. -/
def tick (c : Cron) : Task (Except Report Nat) := do
  match ← c.source.sync with
  | .error e => pure (.error (e.within "Failed to sync source repository"))
  | .ok () =>
    match ← c.source.head with
    | .error e => pure (.error e)
    | .ok head => submitRef c.scheduler c.runConfig head c.benchmarks

/-- The loop between two rounds: the next tick and what was seen of the stop signal. -/
structure Loop where
  nextTick : Instant
  seen : Nat
  deriving DecidableEq, Repr, Inhabited

/-- The loop at its start; the first tick is due at once. -/
def start (seen : Nat) : Task Loop := do
  let now ← Task.instant
  pure { nextTick := now, seen }

/-- One round: waits for a tick and submits, or ends. -/
def round (c : Cron) (l : Loop) : Task (Option Loop) := do
  match ← Task.ask (.wait (some l.nextTick) (some l.seen)) with
  | .news _ => pure none
  | .elapsed =>
    let _ ← c.tick
    pure (some { l with nextTick := ⟨l.nextTick.nanos + c.period.nanos⟩ })

end Cron

end BenchQueue.Worker
