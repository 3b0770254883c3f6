import BenchQueue.Comparison.Config
import BenchQueue.Machine.Files
import BenchQueue.Measurement.Summary
import BenchQueue.Number.Reader
import BenchQueue.Scheduling.Config
import BenchQueue.Text.Blank
import BenchQueue.Toml.Reader
import BenchQueue.Worker.Report
/-!
# Settings of a worker

A worker reads its settings from a TOML document, of which every key may be missing, and then lets
variables of its environment override them. A variable that does not spell a number leaves a numeric
setting as it is.
-/

namespace BenchQueue.Worker

/-- The time that one execution may take unless another one is set. -/
def defaultExecutionTimeout : Duration := .ofSeconds 7200

/-- The settings of a worker. -/
structure Settings where
  databaseUrl : Option String := none
  maxConcurrentJobs : UInt64 := 1
  dispatchInterval : Duration := .ofSeconds 1
  executionTimeout : Duration := defaultExecutionTimeout
  runRetries : UInt32 := 2
  shutdownGrace : Duration := Scheduling.defaultShutdownGrace
  comparePollInterval : Duration := .ofSeconds 1
  compareTimeout : Duration := .ofSeconds 86400
  regressionThreshold : Float := Measurement.defaultThreshold
  slackWebhookUrl : Option String := none
  repositoryUrl : String := Comparison.defaultRepositoryUrl
  sourceDir : String := "/var/lib/benchrun/source"
  sourceBranch : String := "main"
  runConfig : String := "/etc/benchrun/run.toml"
  cronInterval : Duration := .zero
  cronBenchmarks : List String := ["micro", "oltp", "tpcc"]

/-- The variables of an environment. -/
abbrev Environment := String → Option String

namespace Settings

instance : Inhabited Settings := ⟨{}⟩

/-- The keys of the document. -/
def keys : List String :=
  ["database_url", "max_concurrent_jobs", "dispatch_interval", "execution_timeout", "run_retries",
    "shutdown_grace", "compare_poll_interval", "compare_timeout", "regression_threshold_percent",
    "slack_webhook_url", "repository_url", "source_dir", "source_branch", "run_config",
    "cron_interval", "cron_benchmarks"]

/-- A duration in whole milliseconds. -/
def millisOfJson? (json : Json) : Option Duration := json.uint64?.map Duration.ofMillis

/-- A duration in whole seconds. -/
def secondsOfJson? (json : Json) : Option Duration := json.uint64?.map Duration.ofSeconds

/-- Reads settings; a key that is missing keeps its default. -/
def ofJson? (json : Json) : Option Settings := do
  let r ← json.record? keys
  let d : Settings := {}
  let databaseUrl ← r.optional "database_url" Json.str?
  let maxConcurrentJobs ← r.defaulted "max_concurrent_jobs" d.maxConcurrentJobs Json.uint64?
  let dispatchInterval ← r.defaulted "dispatch_interval" d.dispatchInterval millisOfJson?
  let executionTimeout ← r.defaulted "execution_timeout" d.executionTimeout secondsOfJson?
  let runRetries ← r.defaulted "run_retries" d.runRetries Json.uint32?
  let shutdownGrace ← r.defaulted "shutdown_grace" d.shutdownGrace secondsOfJson?
  let comparePollInterval ← r.defaulted "compare_poll_interval" d.comparePollInterval millisOfJson?
  let compareTimeout ← r.defaulted "compare_timeout" d.compareTimeout secondsOfJson?
  let regressionThreshold ←
    r.defaulted "regression_threshold_percent" d.regressionThreshold Json.float?
  let slackWebhookUrl ← r.optional "slack_webhook_url" Json.str?
  let repositoryUrl ← r.defaulted "repository_url" d.repositoryUrl Json.str?
  let sourceDir ← r.defaulted "source_dir" d.sourceDir Json.str?
  let sourceBranch ← r.defaulted "source_branch" d.sourceBranch Json.str?
  let runConfig ← r.defaulted "run_config" d.runConfig Json.str?
  let cronInterval ← r.defaulted "cron_interval" d.cronInterval secondsOfJson?
  let cronBenchmarks ← r.defaulted "cron_benchmarks" d.cronBenchmarks (Json.listOf Json.str?)
  pure { databaseUrl, maxConcurrentJobs, dispatchInterval, executionTimeout, runRetries,
         shutdownGrace, comparePollInterval, compareTimeout, regressionThreshold, slackWebhookUrl,
         repositoryUrl, sourceDir, sourceBranch, runConfig, cronInterval, cronBenchmarks }

/-- Reads the document of settings. -/
def parse? (text : String) : Option Settings :=
  (Toml.parse? text).bind fun document => ofJson? document.toJson

/-- What stands in reports for the position and cause of an error in a document. -/
def syntaxErrorText : String := "TOML parse error"

/-- Reads the document in a file, whose content is given. -/
def ofFile (path : String) (content : Except Machine.Fault String) : Except Report Settings :=
  match content with
  | .error fault => .error ⟨"Failed to read " ++ path, [fault.text]⟩
  | .ok text =>
    match parse? text with
    | some settings => .ok settings
    | none => .error ⟨"Failed to parse " ++ path, [syntaxErrorText]⟩

/-- The number that a variable spells, blanks around it aside. -/
def number? (env : Environment) (name : String) : Option UInt64 :=
  (env name).bind fun text => parseWord? (Text.trim text)

/-- A variable that is set to a text that is not empty. -/
def nonempty? (env : Environment) (name : String) : Option String :=
  (env name).filter (· ≠ "")

/-- The names in a list with commas between them, without blanks around them and without empty
ones. -/
def splitList (text : String) : List String :=
  ((text.splitOn ",").map Text.trim).filter (· ≠ "")

/-- The settings with the values of the variables that are set. The number of retries is taken in
its low 32 bits. -/
def override (s : Settings) (env : Environment) : Settings :=
  { databaseUrl := nonempty? env "DATABASE_URL" <|> s.databaseUrl
    maxConcurrentJobs :=
      match number? env "MAX_CONCURRENT_JOBS" with
      | some n => if n = 0 then 1 else n
      | none => s.maxConcurrentJobs
    dispatchInterval :=
      match number? env "DISPATCH_INTERVAL_MS" with
      | some n => (Duration.ofMillis n).max Scheduling.minDispatchInterval
      | none => s.dispatchInterval
    executionTimeout :=
      ((number? env "EXECUTION_TIMEOUT_SECS").map .ofSeconds).getD s.executionTimeout
    runRetries := ((number? env "RUN_RETRIES").map UInt64.toUInt32).getD s.runRetries
    shutdownGrace := ((number? env "SHUTDOWN_GRACE_SECS").map .ofSeconds).getD s.shutdownGrace
    comparePollInterval :=
      ((number? env "COMPARE_POLL_INTERVAL_MS").map .ofMillis).getD s.comparePollInterval
    compareTimeout := ((number? env "COMPARE_TIMEOUT_SECS").map .ofSeconds).getD s.compareTimeout
    regressionThreshold :=
      ((env "REGRESSION_THRESHOLD_PERCENT").bind fun text => parseFloat? (Text.trim text)).getD
        s.regressionThreshold
    slackWebhookUrl := nonempty? env "SLACK_WEBHOOK_URL" <|> s.slackWebhookUrl
    repositoryUrl := (env "REPOSITORY_URL").getD s.repositoryUrl
    sourceDir := (env "SOURCE_DIR").getD s.sourceDir
    sourceBranch := (env "SOURCE_BRANCH").getD s.sourceBranch
    runConfig := (env "RUN_CONFIG").getD s.runConfig
    cronInterval := ((number? env "CRON_INTERVAL_SECS").map .ofSeconds).getD s.cronInterval
    cronBenchmarks := ((env "CRON_BENCHMARKS").map splitList).getD s.cronBenchmarks }

/-- The settings in the file that an environment names, or the defaults, overridden by the variables
of that environment. -/
def ofEnvironment (env : Environment) (content : String → Except Machine.Fault String) :
    Except Report Settings := do
  let settings ← match env "BENCHRUN_CONFIG" with
    | some path => ofFile path (content path)
    | none => pure {}
  pure (settings.override env)

/-- The settings of the worker's scheduler. -/
def schedulerConfig (s : Settings) : Scheduling.Config :=
  { (({} : Scheduling.Config).withMaxConcurrentJobs s.maxConcurrentJobs).withDispatchInterval
      s.dispatchInterval with
    defaultRetries := s.runRetries
    shutdownGrace := s.shutdownGrace }

/-- The settings of the worker's comparisons; a time of zero means that targets are waited for
forever. -/
def comparisonConfig (s : Settings) : Comparison.Config :=
  Comparison.Config.withRepositoryUrl
    { pollInterval := s.comparePollInterval
      timeout := if s.compareTimeout.isZero then none else some s.compareTimeout }
    s.repositoryUrl

/-- Whether benchmarks are submitted at regular times. -/
def cronEnabled (s : Settings) : Bool :=
  !s.cronInterval.isZero && !s.cronBenchmarks.isEmpty

end Settings

end BenchQueue.Worker
