import BenchQueue.Machine.Launch
import BenchQueue.Measurement.Table
import BenchQueue.Notify.Webhook
import BenchQueue.Rehearsal.Kernel
/-!
# The surroundings of tasks

Answers what the parts of the scheduler ask for from the world of a rehearsal. Time passes only in
waits, in played calls and in programs that pause.
-/

namespace BenchQueue.Rehearsal

/-- The files of the machine. -/
def World.files (w : World) : Machine.Files := w.host.files

/-- Changes the files of the machine, if the change is possible. -/
def World.changeFiles (w : World) (change : Machine.Files → Except Machine.Fault Machine.Files) :
    Except Machine.Fault Unit × World :=
  match change w.files with
  | .ok files => (.ok (), { w with host := { w.host with files } })
  | .error fault => (.error fault, w)

/-- Adds text to a log that is still there. -/
def appendToLog (w : World) (path text : String) : World :=
  match w.files.read w.cwd path with
  | .ok _ => (w.changeFiles (·.append w.cwd path text.toUTF8)).2
  | .error _ => w

/-- Answers what a running program asks of the machine. -/
def answerProgram : (r : Machine.ProgramRequest) → Act r.Answer
  | .pause d => Act.sleep d
  | .look => return (← Act.look).host
  | .change host => Act.change ({ · with host })
  | .variable name => return (← Act.look).environment name
  | .diagnose text => Act.change (·.diagnose text)

/-- Runs a program on the machine. -/
def runProgram {α : Type} (program : Machine.Program α) : Act α :=
  program.interpret answerProgram

/-- Answers what is asked of the machine; nothing else is answered. -/
def onMachine : (e : Effect) → Act e.Answer
  | .readFile path => return (← Act.look).files.readText (← Act.look).cwd path
  | .isDirectory path => return (← Act.look).files.isDirectory (← Act.look).cwd path
  | .makeDirs path => Act.step fun w => w.changeFiles (·.makeDirs w.cwd path)
  | .writeFile path text => Act.step fun w => w.changeFiles (·.write w.cwd path text.toUTF8)
  | .openLog path => Act.step fun w => w.changeFiles (·.append w.cwd path ByteArray.empty)
  | .appendLog path text => Act.change (appendToLog · path text)
  | .command command => do
    let w ← Act.look
    runProgram (Machine.launch w.cwd command)
  | _ => Act.panic

/-- Plays a call that answers a result unless it fails. -/
def playCall {α : Type} (c : PlayedCall) (result : α) : Act (Except Infra.Error α) := do
  Act.sleepMillis c.millis
  if c.panics then Act.panic
  else
    match c.failure with
    | some e => pure (.error e)
    | none => pure (.ok result)

/-- Plays the answer to a call on a provider. -/
def playAnswer (script : ProviderScript) : (call : Infra.Call) → Act call.Answer
  | .setConfig _ | .setExecUuid _ | .setTags _ => pure ()
  | .prepare => playCall script.prepare ()
  | .provision => playCall script.provision script.provision.hosts
  | .run _ => playCall script.run ()
  | .cleanUp => playCall script.cleanUp ()

/-- Plays a call on a provider. -/
def playProvider (script : ProviderScript) (call : Infra.Call) : Act call.Answer := do
  Act.report (.providerCalled call)
  playAnswer script call

/-- Makes a call on a provider. -/
def callProvider (handle : Nat) (call : Infra.Call) : Act call.Answer := do
  match (← Act.look).provider? handle with
  | none => Act.panic
  | some (.played script) => playProvider script call
  | some (.ownMachine p) =>
    let (answer, p) ← (Infra.Local.answer p call).interpret onMachine
    Act.change (·.setProvider handle (.ownMachine p))
    pure answer

/-- The result of a played measurement. -/
def playedSummary (entry : Option PlayedMeasurement) (target : Run.Identifier) :
    Except Measurement.Error String :=
  match entry with
  | some (some result) => result
  | _ => .error (.noResult target.text)

/-- Measures a run against another one. -/
def measure (w : World) (kind : Run.Kind) (current target : Run.Identifier) :
    Except Measurement.Error String × World :=
  match w.comparisons.map Comparisons.measurements with
  | none => (.error (.noResult target.text), w)
  | some (.played micro macroBench) =>
    let w := w.report (.measured kind current target)
    let script := if kind.isMicro then micro else macroBench
    (playedSummary (scriptFor? script target.gitRef) target, w)
  | some (.database threshold) =>
    match w.query (Measurement.compare kind threshold current target) with
    | (some result, w) => (result, w)
    | (none, w) => (.error (.noResult target.text), w)

/-- The answer of a web server that cannot be reached. -/
def unreachable (url text : String) : Except Notify.Error Unit :=
  match Notify.webRequest? url text with
  | none => .error (.http "builder error")
  | some _ => Notify.verdict none

/-- Sends a message. -/
def notify (w : World) (text : String) : Except Notify.Error Unit × World :=
  match w.comparisons.map Comparisons.notifier with
  | none | some .discarded => (.ok (), w)
  | some (.webhook url) => (unreachable url text, w)
  | some (.played refusals) =>
    let w := { w with messages := w.messages + 1 }
    if w.messages ∈ refusals.numbers then (.error (.rejected refusals.status refusals.message), w)
    else (.ok (), w.report (.notified text))

/-- Waits for a task and answers what it produced. -/
def awaitTask (task : TaskId) : Act (Option Ending) := do
  let _ ← Act.request (.wait { tasks := some [task] })
  Act.request (.ending task)

/-- Makes an attempt as a task of its own and waits for it. -/
def awaitAttempt (run : Run.Identifier) (configPath : String) : Act AttemptEnd := do
  let task ← Act.request (.start (.attempt run configPath))
  match ← awaitTask task with
  | some (.returned (.attempt result)) => pure (.returned result)
  | _ => pure .panicked

/-- The executions of a task that have not ended. -/
def openExecutions (self : TaskId) : Act (List TaskId) := do
  let tasks := (← Act.look).executionsOf self
  tasks.filterMapM fun task => do
    match ← Act.request (.ending task) with
    | none => pure (some task)
    | some _ => pure none

/-- Answers what a part of the scheduler asks for that runs in a task. -/
def answerEffect (self : TaskId) : (e : Effect) → Act e.Answer
  | .wallClock => Act.step World.readClock
  | .instant => return (← Act.look).now
  | .wait limit seen => do
    match ← Act.request (.wait { limit, seen }) with
    | .news news => pure (.news news)
    | .elapsed | .ended => pure .elapsed
  | .draw => pure 0.0
  | .newId => Act.step World.newIdentity
  | .panic => do
    Act.change World.breakDown
    Act.panic
  | .store call => Act.step (·.askStore call)
  | .enqueue defaultRetries request => Act.step fun w =>
    let (submission, queue) := w.queue.submit defaultRetries request
    (submission, { w with queue })
  | .dispatch limit => Act.step fun w =>
    match w.queue.dispatch? limit with
    | some (e, queue) => (some e, { w with queue })
    | none => (none, w)
  | .release run => Act.change fun w => { w with queue := w.queue.release run }
  | .attempt run configPath => awaitAttempt run configPath
  | .beginExecution element seen => do
    let task ← Act.request (.start (.execution element seen))
    Act.change fun w => { w with executions := w.executions ++ [(self, task)] }
  | .hasExecutions => return !(← openExecutions self).isEmpty
  | .awaitExecutions limit => do
    let tasks := (← Act.look).executionsOf self
    let reason ← Act.request (.wait { limit, tasks := some tasks })
    pure (reason = .ended)
  | .abortExecutions => do
    for task in ← openExecutions self do
      let () ← Act.request (.giveUp task)
  | .beginComparison finished targets notifyAlways seen => do
    match (← Act.look).comparisons with
    | none => pure ()
    | some c =>
      let job : Comparison.Job := { finished, notifyAlways, config := c.config }
      let _ ← Act.request (.start (.startComparing job targets seen))
      pure ()
  | .signal => return (← Act.look).signal
  | .measure kind current target => Act.step (measure · kind current target)
  | .notify text => Act.step (notify · text)
  | .createProvider config => Act.step (·.makeProvider config)
  | .provider handle call => callProvider handle call
  | .supervised handle call limit => Act.superviseUnlessOver limit (callProvider handle call)
  | .readFile path => onMachine (.readFile path)
  | .isDirectory path => onMachine (.isDirectory path)
  | .makeDirs path => onMachine (.makeDirs path)
  | .writeFile path text => onMachine (.writeFile path text)
  | .openLog path => onMachine (.openLog path)
  | .appendLog path text => onMachine (.appendLog path text)
  | .command command => onMachine (.command command)

/-- A part of the scheduler as a part of a task. -/
def inTask {α : Type} (self : TaskId) (task : Task α) : Act α :=
  task.interpret (answerEffect self)

end BenchQueue.Rehearsal
