import BenchQueue.Effect
import BenchQueue.Scheduling.Config
/-!
# The dispatch loop

The loop wakes at every tick of the dispatch interval and at every change of the stop signal. It
ends once the signal holds true or can no longer change; otherwise it admits one element. When it
ends it waits for the elements that still execute and gives them up after the grace period.
-/

namespace BenchQueue.Scheduling

/-- The loop between two rounds: the next tick and what was seen of the stop signal. -/
structure Dispatcher where
  nextTick : Instant
  seen : Nat
  deriving DecidableEq, Repr, Inhabited

namespace Dispatcher

/-- The lag of a tick up to which ticks keep their schedule. -/
def tickTolerance : Duration := .ofMillis 5

/-- The tick after one that was due at an instant and taken at another one: on schedule, or a full
interval later if it was taken late. -/
def tickAfter (due now : Instant) (interval : Duration) : Instant :=
  if due.nanos + tickTolerance.nanos < now.nanos then ⟨now.nanos + interval.nanos⟩
  else ⟨due.nanos + interval.nanos⟩

/-- The loop at its start; the first tick is due at once. -/
def start (seen : Nat) : Task Dispatcher := do
  let now ← Task.instant
  pure { nextTick := now, seen }

/-- Waits for a tick or for news of the stop signal. -/
def wake (c : Config) (d : Dispatcher) : Task Dispatcher := do
  match ← Task.ask (.wait (some d.nextTick) (some d.seen)) with
  | .elapsed =>
    let now ← Task.instant
    pure { d with nextTick := tickAfter d.nextTick now c.dispatchInterval }
  | .news (.changed seen) => pure { d with seen }
  | .news _ => pure d

/-- Waits for the elements that execute, and gives them up after the grace period. -/
def drain (c : Config) : Task Unit := do
  if ← Task.ask .hasExecutions then
    let now ← Task.instant
    unless ← Task.ask (.awaitExecutions (now.after? c.shutdownGrace)) do
      Task.ask .abortExecutions

/-- One round: wakes, and ends or admits an element. The loop goes on with the state that is
answered. -/
def round (c : Config) (d : Dispatcher) : Task (Option Dispatcher) := do
  let d ← d.wake c
  let signal ← Task.ask .signal
  if signal.value || !signal.isOpen then
    drain c
    pure none
  else
    match ← Task.ask (.dispatch c.maxConcurrentJobs.toNat) with
    | some e => Task.ask (.beginExecution e d.seen)
    | none => pure ()
    pure (some d)

end Dispatcher

end BenchQueue.Scheduling
