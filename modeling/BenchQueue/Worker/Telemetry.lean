import BenchQueue.Worker.Settings
/-!
# Settings of a worker's log
-/

namespace BenchQueue.Worker

/-- The filter of log events when none is set or the one that is set cannot be read. -/
def defaultLogFilter : String := "benchrun_worker=info,benchrun_scheduler=info"

/-- The name of the service when none is set. -/
def defaultServiceName : String := "benchrun-worker"

/-- The settings of a worker's log. -/
structure Telemetry where
  serviceName : String := defaultServiceName
  enableConsole : Bool := true
  logFilter : Option String := none
  deriving DecidableEq, Repr, Inhabited

namespace Telemetry

/-- The filter that gives the events of the worker and of its scheduler one level. -/
def levelFilter (level : String) : String :=
  "benchrun_worker=" ++ level ++ ",benchrun_scheduler=" ++ level

/-- The settings in an environment; a filter wins over a level. -/
def ofEnvironment (env : Environment) : Telemetry :=
  { serviceName := (env "OTEL_SERVICE_NAME").getD defaultServiceName
    logFilter := env "RUST_LOG" <|> (env "LOG_LEVEL").map levelFilter }

end Telemetry

end BenchQueue.Worker
