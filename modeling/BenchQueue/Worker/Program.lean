import BenchQueue.Database.Address
import BenchQueue.Database.Migration
import BenchQueue.Worker.Cron
import BenchQueue.Worker.EnvironmentFile
import BenchQueue.Worker.LogFilter
import BenchQueue.Worker.Telemetry
/-!
# The worker

The worker reads its settings, connects to its store, runs the scheduler and, if it is wanted, the
regular submissions until it is interrupted, and then waits for what still executes. A failure
before the scheduler runs ends it with a report.
-/

namespace BenchQueue.Worker

/-- How a worker compares runs. -/
structure ComparisonPlan where
  config : Comparison.Config
  threshold : Float
  webhook : Option String

/-- What a worker does until it is interrupted. -/
structure Plan where
  scheduler : Scheduling.Config
  deadline : Duration
  comparisons : Option ComparisonPlan
  cron : Option Cron

/-- How much there is to do: the elements in the queue and those that execute. -/
structure Load where
  queued : Nat
  inFlight : Nat
  deriving DecidableEq, Repr, Inhabited

/-- What a worker asks of the system it runs on. `adopt` makes an environment that of the programs
that the worker starts. -/
inductive HostRequest
  | environment
  | adopt (env : Environment)
  | workingDir
  | readFile (path : String)
  | log (event : LogEvent)
  | connect (url : String)
  | query (statement : Database.Statement)
  | start (plan : Plan)
  | awaitInterrupt
  | load
  | stop

/-- The kind of answer to a request. -/
@[reducible] def HostRequest.Answer : HostRequest → Type
  | .environment => Environment
  | .adopt _ => Unit
  | .workingDir => String
  | .readFile _ => Except Machine.Fault String
  | .log _ => Unit
  | .connect _ => Except Database.Failure Unit
  | .query _ => Database.Reply
  | .start _ => Unit
  | .awaitInterrupt => Unit
  | .load => Load
  | .stop => Unit

/-- The signature of the system that a worker runs on. -/
@[reducible] def Host : Signature := ⟨HostRequest, HostRequest.Answer⟩

/-- A part of the worker. -/
abbrev Program (α : Type) := Flow Host α

namespace Program

/-- Makes one request. -/
def ask (r : HostRequest) : Program r.Answer := Flow.ask r Flow.done

/-- The name of an environment file. -/
def environmentFile : String := ".env"

/-- The directories from one upwards. -/
def upwards (dir : String) : List String :=
  let parts := (dir.splitOn "/").filter (· ≠ "")
  (List.range (parts.length + 1)).map fun up =>
    "/" ++ "/".intercalate (parts.take (parts.length - up))

/-- The text of the first environment file in some directories. -/
def firstFile : List String → Program (Option String)
  | [] => pure none
  | dir :: rest => do
    match ← ask (.readFile (Machine.joinNames dir environmentFile)) with
    | .ok text => pure (some text)
    | .error .notFound | .error .isDirectory => firstFile rest
    | .error _ => pure none

/-- The environment, with the variables of the nearest environment file. -/
def loadEnvironment : Program Environment := do
  let env ← ask .environment
  match ← firstFile (upwards (← ask .workingDir)) with
  | none => pure env
  | some text =>
    let env := EnvironmentFile.read env text
    ask (.adopt env)
    pure env

/-- The target of the events of the worker itself. -/
def workerTarget : String := "benchrun_worker"

/-- The target of the events about the log. -/
def telemetryTarget : String := workerTarget ++ "::telemetry"

/-- The filter that a worker's log has. -/
def filterOf (t : Telemetry) : LogFilter :=
  match t.logFilter.bind LogFilter.parse? with
  | some filter => filter
  | none => (LogFilter.parse? defaultLogFilter).getD []

/-- Logs an event, if it is shown. -/
def show_ (filter : LogFilter) (event : LogEvent) : Program Unit :=
  if filter.shows event then ask (.log event) else pure ()

/-- Logs an event of the worker itself, if it is shown. -/
def say (filter : LogFilter) (level : Level) (text : String) : Program Unit :=
  show_ filter ⟨level, workerTarget, text⟩

/-- Reads the settings of an environment. -/
def loadSettings (env : Environment) : Program (Except Report Settings) := do
  let content ← match env "BENCHRUN_CONFIG" with
    | some path => ask (.readFile path)
    | none => pure (.error .notFound)
  pure ((Settings.ofEnvironment env fun _ => content).mapError
    (Report.within "Failed to load worker configuration"))

/-- A failure of the store as a report about a task. -/
def storeFailure (task : String) (e : Store.Error) : Report := ⟨task, [e.message]⟩

/-- Connects to the database and brings its schema up to date. -/
def openDatabase (url : String) : Program (Except Report Unit) := do
  match ← ask (.connect url) with
  | .error f => pure (.error (storeFailure "Failed to connect to PostgreSQL" (.database f.message)))
  | .ok () =>
    let migrated : Except Store.Error Unit ← Database.migrate.interpret fun s => ask (.query s)
    pure (migrated.mapError (storeFailure "Failed to run migrations"))

/-- Opens the store: the database if one is set, or else records in memory. -/
def openStore (filter : LogFilter) (s : Settings) : Program (Except Report Unit) := do
  match s.databaseUrl with
  | some url => openDatabase url
  | none =>
    say filter .warn "DATABASE_URL not set, using in-memory store; comparisons are disabled"
    pure (.ok ())

/-- What a worker with some settings does. Runs are compared only if there is a database. -/
def planOf (s : Settings) : Plan :=
  { scheduler := s.schedulerConfig
    deadline := s.executionTimeout
    comparisons := s.databaseUrl.map fun _ =>
      { config := s.comparisonConfig, threshold := s.regressionThreshold,
        webhook := s.slackWebhookUrl }
    cron :=
      if s.cronEnabled then
        some
          { scheduler := s.schedulerConfig.normalized
            source := ⟨s.sourceDir, s.repositoryUrl, s.sourceBranch⟩
            benchmarks := s.cronBenchmarks, runConfig := s.runConfig, interval := s.cronInterval }
      else none }

/-- The event about the start of the scheduler. -/
def startText (s : Settings) : String :=
  "Starting scheduler max_concurrent_jobs=" ++ toString s.maxConcurrentJobs.toNat ++ " retries=" ++
    toString s.runRetries.toNat ++ " execution_timeout=" ++ s.executionTimeout.text

/-- The event about an interrupt. -/
def interruptText (s : Settings) (load : Load) : String :=
  "Received shutdown signal queued=" ++ toString load.queued ++ " in_flight=" ++
    toString load.inFlight ++ " grace=" ++ s.shutdownGrace.text

/-- Runs the scheduler until the worker is interrupted. -/
def serve (filter : LogFilter) (s : Settings) : Program Unit := do
  let plan := planOf s
  say filter .info (startText s)
  ask (.start plan)
  if plan.cron.isNone then say filter .info "Cron loop disabled"
  ask .awaitInterrupt
  let load ← ask .load
  say filter .info (interruptText s load)
  ask .stop
  say filter .info "Worker shutdown complete"

/-- The worker, from its start to its end. -/
def work : Program (Except Report Unit) := do
  let env ← loadEnvironment
  let telemetry := Telemetry.ofEnvironment env
  let filter := filterOf telemetry
  show_ filter
    ⟨.debug, telemetryTarget, "Telemetry initialized service=" ++ telemetry.serviceName⟩
  say filter .info "benchrun-worker starting..."
  match ← loadSettings env with
  | .error report => pure (.error report)
  | .ok settings =>
    match ← openStore filter settings with
    | .error report => pure (.error report)
    | .ok () =>
      serve filter settings
      pure (.ok ())

end Program

end BenchQueue.Worker
