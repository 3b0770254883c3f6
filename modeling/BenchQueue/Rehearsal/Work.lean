import BenchQueue.Rehearsal.Surroundings
import BenchQueue.Run.Executor
/-!
# The work of tasks

What the task of a job does. A loop is worked on round by round: the task goes on with the next
round as its job.
-/

namespace BenchQueue.Rehearsal

/-- What a round of work ends in. -/
inductive Round
  | again (job : Job)
  | finished (product : Product)

/-- Adds a record of a run to the store and moves it to a status. -/
def recordRun (self : TaskId) (run : Run.Identifier) (status : Run.Status) :
    Act (Except Store.Error Unit) :=
  inTask self do
    let id ← Task.ask .newId
    let created ← Task.wallClock
    match ← Task.insertRecord (.created id run created) with
    | .error e => pure (.error e)
    | .ok () =>
      if status = .created then return .ok ()
      let started ← Task.wallClock
      match ← Task.updateStatus id .started started with
      | .error e => pure (.error e)
      | .ok () =>
        if status.isTerminal then
          let ended ← Task.wallClock
          Task.updateStatus id status ended
        else pure (.ok ())

/-- Plays an attempt at a run. -/
def playAttempt (self : TaskId) (script : AttemptScript) (run : Run.Identifier)
    (configPath : String) : Act (Except Run.Error Unit) := do
  let number ← Act.step (·.countAttempt run)
  let attempt := playedAttempt script run.text number
  Act.report (.attemptStarted run number configPath)
  Act.sleepMillis attempt.millis
  Act.report (.attemptEnded run number attempt.ending)
  match attempt.ending with
  | .ok => pure (.ok ())
  | .fail => pure (.error (.runFailed ("attempt " ++ toString number)))
  | .panic => Act.panic
  | .record => return (← recordRun self run .finished).mapError .store

/-- Makes an attempt at a run. -/
def makeAttempt (self : TaskId) (run : Run.Identifier) (configPath : String) :
    Act (Except Run.Error Unit) := do
  match (← Act.look).executor with
  | .played script => playAttempt self script run configPath
  | .fromFiles deadline => inTask self (Run.executeFile deadline run configPath)

/-- Executes an element. -/
def executeElement (self : TaskId) (e : Scheduling.Element) (seen : Nat) :
    Act Scheduling.Outcome := do
  let w ← Act.look
  inTask self (Scheduling.execute w.scheduler w.comparisons.isSome e seen)

/-- One round of the work of a task. -/
def Job.round (self : TaskId) : Job → Act Round
  | .attempt run configPath => return .finished (.attempt (← makeAttempt self run configPath))
  | .execution e seen => return .finished (.execution (← executeElement self e seen))
  | .dispatching d => do
    let config := (← Act.look).scheduler
    match ← inTask self (d.round config) with
    | some d => pure (.again (.dispatching d))
    | none => pure (.finished .nothing)
  | .startComparing job targets seen => do
    let progress ← inTask self (Comparison.Progress.start job.config targets seen)
    pure (.again (.comparing job progress))
  | .comparing job progress => do
    match ← inTask self (progress.round job) with
    | .again progress => pure (.again (.comparing job progress))
    | .finished result => pure (.finished (.comparison result))
  | .submitting cron loop => do
    match ← inTask self (cron.round loop) with
    | some loop => pure (.again (.submitting cron loop))
    | none => pure (.finished .nothing)

end BenchQueue.Rehearsal
