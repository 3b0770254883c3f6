import BenchQueue.Comparison.Progress
import BenchQueue.Rehearsal.World
import BenchQueue.Scheduling.Dispatcher
import BenchQueue.Scheduling.Execution
import BenchQueue.Worker.Cron
/-!
# Tasks of a rehearsal

A task reads and changes the world and waits for an instant, for news of the stop signal or for
other tasks. It runs until it waits, so what it does between two waits is one step. Tasks are
numbered and may be given up; what a task does is a value of its own, so a task can be started from
a description of its work.
-/

namespace BenchQueue.Rehearsal

/-- The number of a task. -/
abbrev TaskId := Nat

/-- The work of a task. -/
inductive Job
  | attempt (run : Run.Identifier) (configPath : String)
  | execution (element : Scheduling.Element) (seen : Nat)
  | dispatching (dispatcher : Scheduling.Dispatcher)
  | startComparing (job : Comparison.Job) (targets : List Run.Identifier) (seen : Nat)
  | comparing (job : Comparison.Job) (progress : Comparison.Progress)
  | submitting (cron : Worker.Cron) (loop : Worker.Cron.Loop)

/-- What a task has produced. -/
inductive Product
  | nothing
  | attempt (result : Except Run.Error Unit)
  | execution (outcome : Scheduling.Outcome)
  | comparison (result : Except Comparison.Error Comparison.Outcome)

/-- How a task ended. -/
inductive Ending
  | returned (product : Product)
  | panicked
  | givenUp

/-- What a task waits for: an instant, news of the stop signal for a listener, or the end of all of
some tasks. -/
structure Wait where
  limit : Option Instant := none
  seen : Option Nat := none
  tasks : Option (List TaskId) := none
  deriving DecidableEq, Repr, Inhabited

/-- Why a wait is over. -/
inductive Reason
  | ended
  | news (news : Signal.News)
  | elapsed
  deriving DecidableEq, Repr

/-- What a task asks for. -/
inductive Request
  | look
  | change (world : World)
  | wait (wait : Wait)
  | start (job : Job)
  | ending (task : TaskId)
  | giveUp (task : TaskId)
  | panic

/-- The kind of answer to a request. -/
@[reducible] def Request.Answer : Request → Type
  | .look => World
  | .change _ => Unit
  | .wait _ => Reason
  | .start _ => TaskId
  | .ending _ => Option Ending
  | .giveUp _ => Unit
  | .panic => Empty

/-- The signature of tasks. -/
@[reducible] def Kernel : Signature := ⟨Request, Request.Answer⟩

/-- A part of a task. -/
abbrev Act (α : Type) := Flow Kernel α

namespace Act

/-- Makes one request. -/
def request (r : Request) : Act r.Answer := Flow.ask r Flow.done

/-- The world. -/
def look : Act World := request .look

/-- Replaces the world. -/
def change (f : World → World) : Act Unit := do
  let w ← look
  request (.change (f w))

/-- Replaces the world and answers something about it. -/
def step {α : Type} (f : World → α × World) : Act α := do
  let w ← look
  let (a, w) := f w
  request (.change w)
  pure a

/-- Breaks down. -/
def panic {α : Type} : Act α :=
  Flow.ask Request.panic fun (impossible : Empty) => nomatch impossible

/-- Adds an event. -/
def report (event : Event) : Act Unit := change (·.report event)

/-- Waits for some milliseconds; for none it does not wait at all. -/
def sleepMillis (millis : Nat) : Act Unit :=
  if millis = 0 then pure ()
  else do
    let w ← look
    let _ ← request (.wait { limit := some ⟨w.now.nanos + millis * nanosPerMilli⟩ })
    pure ()

/-- Waits for a duration; one whose end does not exist is waited for forever. -/
def sleep (d : Duration) : Act Unit := do
  let w ← look
  let _ ← request (.wait { limit := w.now.after? d })
  pure ()

/-- The earlier of two instants that may be missing; a missing one never comes. -/
def earlier : Option Instant → Option Instant → Option Instant
  | none, b => b
  | a, none => a
  | some a, some b => some (if b.nanos < a.nanos then b else a)

/-- Whether a wait for the first instant is over only when the second has come. Both are taken as
whole milliseconds, and of two that are the same the second one counts. -/
def isCutBy (own limit : Option Instant) : Bool :=
  match own, limit with
  | _, none => false
  | none, some _ => true
  | some own, some limit => limit.ceilMilli.nanos ≤ own.ceilMilli.nanos

/-- Runs an act that is given up when an instant has come before the act is over, and whose
breakdown is an answer. Nothing of it is done if the instant has come before. -/
def supervise {α : Type} (limit : Option Instant) : Act α → Act (Infra.Ended α)
  | .done a => .done (.returned a)
  | .ask .panic _ => .done .panicked
  | .ask (.wait w) next =>
    .ask (.wait { w with limit := earlier w.limit limit }) fun reason =>
      if reason = .elapsed && isCutBy w.limit limit then .done .expired
      else supervise limit (next reason)
  | .ask .look next => .ask .look fun a => supervise limit (next a)
  | .ask (.change w) next => .ask (.change w) fun a => supervise limit (next a)
  | .ask (.start job) next => .ask (.start job) fun a => supervise limit (next a)
  | .ask (.ending t) next => .ask (.ending t) fun a => supervise limit (next a)
  | .ask (.giveUp t) next => .ask (.giveUp t) fun a => supervise limit (next a)

/-- Runs an act under a limit, unless that has come. -/
def superviseUnlessOver {α : Type} (limit : Option Instant) (act : Act α) :
    Act (Infra.Ended α) := do
  let w ← look
  if limit.any (·.reached w.now) then pure .expired else act.supervise limit

/-- Runs an act whose breakdown is an answer. -/
def catchPanic {α : Type} (act : Act α) : Act (Option α) := do
  match ← act.supervise none with
  | .returned a => pure (some a)
  | .panicked | .expired => pure none

end Act

end BenchQueue.Rehearsal
