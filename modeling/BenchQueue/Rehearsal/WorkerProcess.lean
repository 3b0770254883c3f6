import BenchQueue.Rehearsal.Account
import BenchQueue.Worker.Program

/-!
# Rehearsing a worker

A worker runs on a machine that is played, with an environment, a directory to work in and perhaps a
database. It is interrupted some time after it is ready and what was waited for has happened.
-/

namespace BenchQueue.Rehearsal

/-- When a worker is interrupted: some milliseconds after a file is there and enough statements with
a part were seen. -/
structure Interruption where
  file : Option String := none
  part : String := ""
  count : Nat := 0
  millis : Nat := 0
  deriving DecidableEq, Repr, Inhabited

namespace Interruption

/-- Reads when a worker is interrupted. -/
def ofJson (json : Json) : Interruption :=
  { file := (json.get? "wait_file").bind Json.str?
    part := json.textOr "wait_query" ""
    count := if (json.given? "wait_query").isSome then json.natOr "wait_count" 1 else 0
    millis := json.natOr "wait_ms" 0 }

/-- Whether what is waited for has happened. -/
def isDue (i : Interruption) (w : World) : Bool :=
  let seen := (w.database.map (·.seen)).getD []
  (i.file.all fun path => (w.files.lookup w.cwd path).isOk) &&
    i.count ≤ (seen.filter fun s => occursIn i.part s.sql).length

/-- Waits until what is waited for has happened, at most some milliseconds. -/
def awaitDue (i : Interruption) : (millis : Nat) → Act Unit
  | 0 => pure ()
  | millis + 1 => do
    if i.isDue (← Act.look) then pure ()
    else
      Act.sleepMillis 1
      i.awaitDue millis

/-- The longest time in milliseconds that is waited. -/
def patience : Nat := 60000

/-- Waits for the interrupt. -/
def await (i : Interruption) : Act Unit := do
  i.awaitDue patience
  Act.sleepMillis i.millis

end Interruption

/-- How a played worker compares runs. -/
def comparisonsOf (p : Worker.ComparisonPlan) : Comparisons :=
  { config := p.config
    measurements := .database p.threshold
    notifier := match p.webhook with
      | some url => .webhook url
      | none => .discarded }

/-- Starts the loops of a worker. -/
def startLoops (p : Worker.Plan) : Act Unit := do
  Act.change fun w =>
    { w with
      scheduler := p.scheduler.normalized
      executor := .fromFiles p.deadline
      comparisons := p.comparisons.map comparisonsOf }
  let d ← Session.asMain (Scheduling.Dispatcher.start 0)
  let dispatching ← Act.request (.start (.dispatching d))
  Act.change fun w => { w with loops := w.loops ++ [dispatching] }
  match p.cron with
  | none => pure ()
  | some cron =>
    let l ← Session.asMain (Worker.Cron.start 0)
    let submitting ← Act.request (.start (.submitting cron l))
    Act.change fun w => { w with loops := w.loops ++ [submitting] }

/-- Stops the loops of a worker and waits for their ends. -/
def stopLoops : Act Unit := do
  Act.change fun w => { w with signal := w.signal.send true }
  let w ← Act.look
  let _ ← Act.request (.wait { tasks := some w.loops })
  pure ()

/-- Connects a worker to the played database. -/
def connectWorker (url : String) (w : World) : Except Database.Failure Unit × World :=
  match w.database with
  | none => ((Database.socketOf url).bind fun _ => .error .connection, w)
  | some db =>
    match db.connect url with
    | .error f => (.error f, w)
    | .ok () => (.ok (), { w with usesDatabase := true })

/-- The reply of the played database to a statement. -/
def queryWorker (s : Database.Statement) (w : World) : Database.Reply × World :=
  match w.query (Database.query s) with
  | (some reply, w) => (reply, w)
  | (none, w) => (.error .connection, w)

/-- Answers what a worker asks of the system it runs on. -/
def answerHost (i : Interruption) : (r : Worker.HostRequest) → Act r.Answer
  | .environment => return (← Act.look).environment
  | .adopt env => Act.change fun w => { w with environment := env }
  | .workingDir => return (← Act.look).cwd.text
  | .readFile path => onMachine (.readFile path)
  | .log event => Act.change fun w => { w with lines := w.lines ++ [event] }
  | .connect url => Act.step (connectWorker url)
  | .query s => Act.step (queryWorker s)
  | .start plan => startLoops plan
  | .awaitInterrupt => i.await
  | .load => do
    let w ← Act.look
    pure ⟨w.queue.size, w.queue.inFlight⟩
  | .stop => stopLoops

/-- How a worker ended: the report of a failure if there was one, and the world at its end. -/
structure WorkerEnd where
  failure : Option Worker.Report
  world : World

/-- The number that a worker ends with. -/
def WorkerEnd.code (e : WorkerEnd) : Nat := if e.failure.isSome then 1 else 0

/-- The part of a text up to the words that a report of the reader of documents begins with; what
follows them is not known. -/
def upToSyntaxReport (text : String) : String :=
  match text.splitOn Worker.Settings.syntaxErrorText with
  | before :: _ :: _ => before ++ Worker.Settings.syntaxErrorText
  | _ => text

/-- The lines on the standard error: what the tasks of the worker and the programs that it started
have written, and then the report of a failure of the worker. -/
def WorkerEnd.diagnostics (e : WorkerEnd) : List String :=
  let report := Machine.Tool.unlines ((e.failure.map Worker.Report.lines).getD [])
  Machine.Tool.linesOf (upToSyntaxReport (e.world.diagnostics ++ report))

/-- Runs a worker to its end. -/
def rehearseWorker (i : Interruption) (w : World) : WorkerEnd :=
  let (result, w) := Engine.rehearse (Worker.Program.work.interpret (answerHost i))
    { w with usesDatabase := false }
  match result with
  | some (.error report) => ⟨some report, w⟩
  | _ => ⟨none, w⟩

/-- The variables that every played worker has. -/
def usualVariables : List (String × String) :=
  [("PATH", "/usr/local/bin:/usr/bin:/bin"), ("GIT_CONFIG_GLOBAL", "/dev/null"),
    ("GIT_CONFIG_NOSYSTEM", "1"), ("LC_ALL", "C"), ("HOME", "/nonexistent"), ("NO_COLOR", "1")]

/-- The environment of a planned worker. -/
def environmentOfJson (json : Json) : Worker.Environment := fun name =>
  match (json.membersOf "env").find? (·.1 = name) with
  | some (_, .str value) => some value
  | _ => Members.find? usualVariables name

/-- Runs the planned git commands. -/
def runPlannedGit (w : World) (json : Json) : World :=
  (json.itemsOf "git").foldl (fun w g =>
    (Session.runGit (g.textOr "in" "") (g.textsOf "args") w).2) w

/-- The world of a planned worker on a machine with an empty directory. The database, if there is
one, has its socket in that directory. -/
def worldOfWorkerPlan (directory : Machine.Path) (startOfDay : Timestamp) (json : Json) : World :=
  let w : World :=
    { startOfDay
      host := { files := filesOfJson directory json }
      cwd := Machine.Files.plainParts (json.textOr "cwd" "/")
      environment := environmentOfJson json
      database :=
        if json.boolOr "pg" false then
          some { socketDir := (directory ++ ["pg"]).text
                 prepared := repliesOfMember json "replies" }
        else none }
  runPlannedGit w json

end BenchQueue.Rehearsal
