import BenchQueue.Comparison.Config
import BenchQueue.Infra.Local
import BenchQueue.Machine.Git
import BenchQueue.Rehearsal.Script
import BenchQueue.Rehearsal.StandIn
import BenchQueue.Scheduling.Config
import BenchQueue.Store.Memory
import BenchQueue.Store.Table
import BenchQueue.Worker.LogFilter
import BenchQueue.Worker.Settings
/-!
# The world of a rehearsal

Everything that the tasks of a rehearsal share: a clock, the queue, the stop signal, the store, the
collaborators that are played, the files of a machine, and the list of what has happened.
-/

namespace BenchQueue.Rehearsal

/-- Something that happened at a collaborator. -/
inductive Event
  | attemptStarted (run : Run.Identifier) (number : Nat) (configPath : String)
  | attemptEnded (run : Run.Identifier) (number : Nat) (ending : AttemptEnding)
  | measured (kind : Run.Kind) (current target : Run.Identifier)
  | notified (text : String)
  | providerMade (kind : String)
  | providerCalled (call : Infra.Call)

/-- Who makes the attempts at a run. -/
inductive Executor
  | played (script : AttemptScript)
  | fromFiles (deadline : Duration)

/-- A provider that was made. -/
inductive Provider
  | ownMachine (provider : Infra.Local.Provider)
  | played (script : ProviderScript)

instance : Inhabited Provider := ⟨.played {}⟩

/-- Where measurements come from. -/
inductive Measurements
  | played (micro macroBench : Members PlayedMeasurement)
  | database (threshold : Float)

/-- Where messages go. -/
inductive Notifier
  | discarded
  | played (refusals : Refusals)
  | webhook (url : String)

/-- How runs are compared. -/
structure Comparisons where
  config : Comparison.Config
  measurements : Measurements
  notifier : Notifier

/-- The world that tasks share. `readings` counts the readings of the clock of the day, `made` holds
the providers by their handles, `executions` the executions in the background with the task that
began them, `loops` the tasks of the loops of a worker, `lines` its log, `diagnostics` what was
written to its standard error, and `breakdowns` the number of its tasks that broke down. -/
structure World where
  now : Instant := .start
  startOfDay : Timestamp := .millennium
  readings : Nat := 0
  identities : Nat := 0
  scheduler : Scheduling.Config := {}
  queue : Scheduling.Queue := {}
  signal : Signal := {}
  memory : Store.Memory := {}
  database : Option StandIn := none
  usesDatabase : Bool := true
  faults : List StoreFault := []
  executor : Executor := .played []
  attempts : Members Nat := []
  scripts : Option (List ProviderScript) := none
  made : List Provider := []
  comparisons : Option Comparisons := none
  messages : Nat := 0
  host : Machine.Git.Host := {}
  cwd : Machine.Path := []
  environment : Worker.Environment := fun _ => none
  executions : List (Nat × Nat) := []
  loops : List Nat := []
  log : List (Instant × Event) := []
  lines : List Worker.LogEvent := []
  diagnostics : String := ""
  breakdowns : Nat := 0

instance : Inhabited World := ⟨{}⟩

namespace World

/-- Adds an event at the current instant. -/
def report (w : World) (event : Event) : World := { w with log := w.log ++ [(w.now, event)] }

/-- Writes text to the standard error. -/
def diagnose (w : World) (text : String) : World := { w with diagnostics := w.diagnostics ++ text }

/-- What is written about a task that breaks down because the end of its time does not exist. The
number of its thread and the place of the failure differ from process to process and are left out.
-/
def breakdownText : String :=
  "\nthread 'tokio-rt-worker' panicked:\noverflow when adding duration to instant\n"

/-- The hint behind the first text about a breakdown. -/
def breakdownHint : String :=
  "note: run with `RUST_BACKTRACE=1` environment variable to display a backtrace\n"

/-- Writes about a task that breaks down. -/
def breakDown (w : World) : World :=
  { w.diagnose (breakdownText ++ if w.breakdowns = 0 then breakdownHint else "") with
    breakdowns := w.breakdowns + 1 }

/-- The time of day, which is later at every reading. -/
def readClock (w : World) : Timestamp × World :=
  let nanos := w.startOfDay.nanos + w.now.nanos + 1000 * (w.readings + 1)
  ({ seconds := w.startOfDay.seconds + nanos / nanosPerSecond, nanos := nanos % nanosPerSecond },
    { w with readings := w.readings + 1 })

/-- An identity that was not handed out before. -/
def newIdentity (w : World) : Uuid × World :=
  let millis := w.startOfDay.seconds.toNat * 1000 + w.now.millis
  (.ofMillis millis (w.identities + 1), { w with identities := w.identities + 1 })

/-- The number of the next attempt at a run. -/
def countAttempt (w : World) (run : Run.Identifier) : Nat × World :=
  let number := (w.attempts.find? run.text).getD 0 + 1
  (number, { w with attempts := w.attempts.insert run.text number })

/-- The result of a flow over the played database, if there is one. -/
def query {α : Type} (w : World) (flow : Flow Database.Sql α) : Option α × World :=
  match w.database with
  | none => (none, w)
  | some db =>
    let (a, db) := flow.run StandIn.answer db
    (some a, { w with database := some db })

/-- The reply of the records in memory to a request, unless it is refused. -/
def askMemory (w : World) (call : Store.Call) : call.Reply × World :=
  let (refused, faults) := refusal call.name w.faults
  let w := { w with faults }
  if refused then (.error (.database ("injected " ++ call.name)), w)
  else
    let (reply, memory) := w.memory.answer call
    (reply, { w with memory })

/-- The reply of the store to a request: the database keeps the records if there is one and it is
used. -/
def askStore (w : World) (call : Store.Call) : call.Reply × World :=
  if w.usesDatabase then
    match w.query (Store.Table.answer call) with
    | (some reply, w) => (reply, w)
    | (none, w) => w.askMemory call
  else w.askMemory call

/-- The provider with a handle. -/
def provider? (w : World) (handle : Nat) : Option Provider := w.made[handle]?

/-- Replaces the provider with a handle. -/
def setProvider (w : World) (handle : Nat) (p : Provider) : World :=
  { w with made := w.made.set handle p }

/-- Makes a provider for settings and answers its handle. -/
def makeProvider (w : World) (config : Infra.Config) : Except Infra.Error Nat × World :=
  let handle := w.made.length
  match w.scripts with
  | none =>
    match Infra.ProviderKind.ofConfig config with
    | .error e => (.error e, w)
    | .ok .localMachine => (.ok handle, { w with made := w.made ++ [.ownMachine {}] })
  | some scripts =>
    let w := w.report (.providerMade config.kind)
    let script := (nthOrLast? scripts (handle + 1)).getD {}
    let w := { w with made := w.made ++ [.played script] }
    match script.creation with
    | some e => (.error e, w)
    | none => (.ok handle, w)

/-- The executions that a task has begun. -/
def executionsOf (w : World) (owner : Nat) : List Nat :=
  w.executions.filterMap fun (o, e) => if o = owner then some e else none

end World

end BenchQueue.Rehearsal
