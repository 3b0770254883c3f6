import BenchQueue.Rehearsal.Engine
/-!
# Steps of a rehearsal

The main task of a rehearsal takes steps: it submits requests, hands out and executes elements,
starts the loops and comparisons and waits for them, sends the stop signal, lets time pass, and
looks at the queue and the store.
-/

namespace BenchQueue.Rehearsal

/-- A step of the main task. -/
inductive Step
  | pass
  | submit (request : Scheduling.Request)
  | dispatch
  | execute
  | spawn
  | join
  | contains (run : Run.Identifier)
  | element (run : Run.Identifier)
  | isEmpty
  | config
  | exists_ (run : Run.Identifier) (status : Run.Status)
  | previous (source benchmarkType excluding : String)
  | latest (source : String)
  | record (run : Run.Identifier) (status : Run.Status)
  | records
  | refuse (fault : StoreFault)
  | submitRef (benchmarks : List String) (gitRef runConfig : String)
  | run
  | runJoin
  | sleep (millis : Nat)
  | send (value : Bool)
  | closeSignal
  | compare (finished : Run.Identifier) (targets : List Run.Identifier) (notifyAlways : Bool)
  | compareJoin
  | git (dir : String) (arguments : List String)
  | write (path text : String)
  | read (path : String)
  | sourceDir
  | sync
  | head
  | tick (benchmarks : List String)
  | cronRun (benchmarks : List String)

/-- What a step finds out. -/
inductive Finding
  | nothing
  | panicked
  | none_
  | submission (result : Except Store.Error Scheduling.Submission)
  | element (e : Option Scheduling.Element)
  | outcome (o : Scheduling.Outcome)
  | truth (b : Bool)
  | config (c : Scheduling.Config)
  | existence (result : Except Store.Error Bool)
  | previous (result : Except Store.Error (Option Run.Identifier))
  | gitRef (result : Except Store.Error (Option String))
  | recorded (result : Except Store.Error Unit)
  | records (records : List Run.Record)
  | submitted (result : Except Worker.Report Nat)
  | stopped
  | comparison (result : Except Comparison.Error Comparison.Outcome)
  | noComparisons
  | code (n : Nat)
  | text (t : Option String)
  | synchronized (result : Except Worker.Report Unit)
  | head (result : Except Worker.Report String)

/-- What the main task remembers between steps: elements that were handed out and tasks that were
started, the oldest first. -/
structure Session where
  dispatched : List Scheduling.Element := []
  spawned : List TaskId := []
  loops : List TaskId := []
  compared : List TaskId := []
  source : Worker.Source := default
  runConfig : String := "run.toml"
  deriving Inhabited

/-- What a step leaves: the number of elements and of taken slots, and the time. -/
structure Report where
  finding : Finding
  size : Nat
  inFlight : Nat
  now : Instant

namespace Session

/-- The main task as one of the tasks. -/
def asMain {α : Type} (task : Task α) : Act α := inTask Engine.mainTask task

/-- What the ending of an execution shows. -/
def ofExecution : Option Ending → Finding
  | some (.returned (.execution o)) => .outcome o
  | _ => .panicked

/-- What the ending of a comparison shows. -/
def ofComparison : Option Ending → Finding
  | some (.returned (.comparison result)) => .comparison result
  | _ => .panicked

/-- What the ending of a loop shows. -/
def ofLoop : Option Ending → Finding
  | some (.returned .nothing) => .stopped
  | _ => .panicked

/-- Executes the oldest element that was handed out. -/
def execute (s : Session) : Act (Finding × Session) :=
  match s.dispatched with
  | [] => pure (.none_, s)
  | e :: dispatched => do
    match ← Act.catchPanic (executeElement Engine.mainTask e 0) with
    | some o => pure (.outcome o, { s with dispatched })
    | none => pure (.panicked, { s with dispatched })

/-- Starts the execution of the oldest element that was handed out. -/
def spawn (s : Session) : Act (Finding × Session) :=
  match s.dispatched with
  | [] => do
    Act.sleepMillis 1
    pure (.nothing, s)
  | e :: dispatched => do
    let task ← Act.request (.start (.execution e 0))
    Act.sleepMillis 1
    pure (.nothing, { s with dispatched, spawned := s.spawned ++ [task] })

/-- Waits for the first of some tasks. -/
def joinFirst (tasks : List TaskId) (show_ : Option Ending → Finding) :
    Act (Finding × List TaskId) :=
  match tasks with
  | [] => pure (.none_, [])
  | task :: rest => return (show_ (← awaitTask task), rest)

/-- Starts a comparison. -/
def compare (s : Session) (finished : Run.Identifier) (targets : List Run.Identifier)
    (notifyAlways : Bool) : Act (Finding × Session) := do
  match (← Act.look).comparisons with
  | none => pure (.noComparisons, s)
  | some c =>
    let job : Comparison.Job := { finished, notifyAlways, config := c.config }
    let task ← Act.request (.start (.startComparing job targets 0))
    Act.sleepMillis 1
    pure (.nothing, { s with compared := s.compared ++ [task] })

/-- Starts the dispatch loop. -/
def run (s : Session) : Act (Finding × Session) := do
  let d ← asMain (Scheduling.Dispatcher.start 0)
  let task ← Act.request (.start (.dispatching d))
  Act.sleepMillis 1
  pure (.nothing, { s with loops := s.loops ++ [task] })

/-- The regular submissions of a session. -/
def cron (s : Session) (scheduler : Scheduling.Config) (benchmarks : List String) : Worker.Cron :=
  { scheduler, source := s.source, benchmarks, runConfig := s.runConfig,
    interval := Worker.minCronInterval }

/-- The code that git ends with in a directory, which is made if it is missing. -/
def runGit (dir : String) (arguments : List String) (w : World) : Nat × World :=
  let host := match w.files.makeDirs w.cwd dir with
    | .ok files => { w.host with files }
    | .error _ => w.host
  let (reply, host) := Machine.Git.run host (Machine.Files.plainParts dir) arguments
  (reply.code, { w with host })

/-- Writes a file, with the directories around it. -/
def writeFile (path text : String) (w : World) : World :=
  let parts := Machine.Files.plainParts path
  let made := (w.changeFiles (·.makeDirsAt [] parts.dropLast)).2
  (made.changeFiles (·.write w.cwd path text.toUTF8)).2

/-- The text of a file, if there is one. -/
def textOfFile (w : World) (path : String) : Option String :=
  (w.files.readText w.cwd path).toOption

/-- The submission of a benchmark list for a commit. -/
def submitRef (benchmarks : List String) (gitRef runConfig : String) :
    Act (Except Worker.Report Nat) := do
  let w ← Act.look
  asMain (Worker.Cron.submitRef w.scheduler runConfig gitRef benchmarks)

/-- One tick of the regular submissions. -/
def tick (s : Session) (benchmarks : List String) : Act (Except Worker.Report Nat) := do
  let w ← Act.look
  asMain (s.cron w.scheduler benchmarks).tick

/-- Takes a step. -/
def take (s : Session) : Step → Act (Finding × Session)
  | .pass => pure (.nothing, s)
  | .submit request => do
    let w ← Act.look
    pure (.submission (← asMain (Scheduling.submit w.scheduler request)), s)
  | .dispatch => do
    let w ← Act.look
    let e ← asMain (Scheduling.dispatchOne w.scheduler)
    pure (.element e, { s with dispatched := s.dispatched ++ e.toList })
  | .execute => s.execute
  | .spawn => s.spawn
  | .join => do
    let (finding, spawned) ← joinFirst s.spawned ofExecution
    pure (finding, { s with spawned })
  | .contains run => return (.truth ((← Act.look).queue.contains run), s)
  | .element run => return (.element ((← Act.look).queue.find? run), s)
  | .isEmpty => return (.truth ((← Act.look).queue.size == 0), s)
  | .config => return (.config (← Act.look).scheduler, s)
  | .exists_ run status =>
    return (.existence (← asMain (Task.recordExists (.forIdentifier run) status)), s)
  | .previous source benchmarkType excluding =>
    return (.previous (← asMain (Scheduling.previousFinished source benchmarkType excluding)), s)
  | .latest source => return (.gitRef (← asMain (Scheduling.latestGitRef source)), s)
  | .record run status => return (.recorded (← recordRun Engine.mainTask run status), s)
  | .records => return (.records (← Act.look).memory.byCreation, s)
  | .refuse fault => do
    Act.change fun w => { w with faults := w.faults ++ [fault] }
    pure (.nothing, s)
  | .submitRef benchmarks gitRef runConfig =>
    return (.submitted (← submitRef benchmarks gitRef runConfig), s)
  | .run => s.run
  | .runJoin => do
    let (finding, loops) ← joinFirst s.loops ofLoop
    pure (finding, { s with loops })
  | .sleep millis => do
    Act.sleepMillis millis
    pure (.nothing, s)
  | .send value => do
    Act.change fun w => if w.signal.isOpen then { w with signal := w.signal.send value } else w
    Act.sleepMillis 1
    pure (.nothing, s)
  | .closeSignal => do
    Act.change fun w => { w with signal := w.signal.close }
    Act.sleepMillis 1
    pure (.nothing, s)
  | .compare finished targets notifyAlways => s.compare finished targets notifyAlways
  | .compareJoin => do
    let (finding, compared) ← joinFirst s.compared ofComparison
    pure (finding, { s with compared })
  | .git dir arguments => return (.code (← Act.step (runGit dir arguments)), s)
  | .write path text => do
    Act.change (writeFile path text)
    pure (.nothing, s)
  | .read path => return (.text (textOfFile (← Act.look) path), s)
  | .sourceDir => pure (.text (some s.source.dir), s)
  | .sync => return (.synchronized (← asMain s.source.sync), s)
  | .head => return (.head (← asMain s.source.head), s)
  | .tick benchmarks => return (.submitted (← s.tick benchmarks), s)
  | .cronRun benchmarks => do
    let _ ← s.tick benchmarks
    pure (.nothing, s)

/-- Takes a step and reports it. -/
def takeAndReport (s : Session) (step : Step) : Act (Report × Session) := do
  let (finding, s) ← s.take step
  let w ← Act.look
  pure ({ finding, size := w.queue.size, inFlight := w.queue.inFlight, now := w.now }, s)

/-- Takes steps in turn. -/
def takeAll (s : Session) : List Step → Act (List Report)
  | [] => pure []
  | step :: rest => do
    let (report, s) ← s.takeAndReport step
    return report :: (← s.takeAll rest)

/-- Takes steps, and lets the tasks go on for another moment. -/
def perform (s : Session) (steps : List Step) : Act (List Report) := do
  let reports ← s.takeAll steps
  Act.sleepMillis 1
  pure reports

end Session

/-- Takes steps in a world; answers what they report and the world after them. -/
def rehearseSteps (w : World) (s : Session) (steps : List Step) : Option (List Report) × World :=
  Engine.rehearse (s.perform steps) w

end BenchQueue.Rehearsal
