import BenchQueue.Worker.Program
/-!
# The command line of the worker

The worker reads the environment and files of the system it runs on, writes its log to the standard
output and its failures to the standard error, and is interrupted by the end of the standard input.
From here no database can be reached and no program can be started. So every regular submission
fails when it brings the clone up to date, which is only logged, and the queue stays empty.
-/

open BenchQueue Worker

namespace BenchQueue.CommandLine

/-- The variables that the worker reads. -/
def variableNames : List String :=
  ["BENCHRUN_CONFIG", "DATABASE_URL", "MAX_CONCURRENT_JOBS", "DISPATCH_INTERVAL_MS",
    "EXECUTION_TIMEOUT_SECS", "RUN_RETRIES", "SHUTDOWN_GRACE_SECS", "COMPARE_POLL_INTERVAL_MS",
    "COMPARE_TIMEOUT_SECS", "REGRESSION_THRESHOLD_PERCENT", "SLACK_WEBHOOK_URL", "REPOSITORY_URL",
    "SOURCE_DIR", "SOURCE_BRANCH", "RUN_CONFIG", "CRON_INTERVAL_SECS", "CRON_BENCHMARKS",
    "OTEL_SERVICE_NAME", "RUST_LOG", "LOG_LEVEL"]

/-- The values of the variables that the worker reads. -/
def readEnvironment : IO Environment := do
  let values ← variableNames.mapM fun name => return (name, ← IO.getEnv name)
  return fun name => (values.find? (·.1 = name)).bind (·.2)

/-- What a failure of the system means for a file. -/
def faultOf : IO.Error → Machine.Fault
  | .permissionDenied .. => .permissionDenied
  | .inappropriateType .. => .isDirectory
  | .userError _ => .invalidText
  | _ => .notFound

/-- The text of a file. -/
def readText (path : String) : IO (Except Machine.Fault String) := do
  try return .ok (← IO.FS.readFile path)
  catch e => return .error (faultOf e)

/-- Reads lines until there are no more. -/
partial def awaitEnd (input : IO.FS.Stream) : IO Unit := do
  unless (← input.getLine).isEmpty do awaitEnd input

/-- Answers what the worker asks for. -/
def answer : (r : HostRequest) → IO r.Answer
  | .environment => readEnvironment
  | .adopt _ => pure ()
  | .workingDir => return (← IO.currentDir).toString
  | .readFile path => readText path
  | .log event => IO.println (event.level.name ++ " " ++ event.target ++ ": " ++ event.text)
  | .connect url => pure ((Database.socketOf url).bind fun _ => .error .connection)
  | .query _ => pure (.error .connection)
  | .start _ => pure ()
  | .awaitInterrupt => do awaitEnd (← IO.getStdin)
  | .load => pure ⟨0, 0⟩
  | .stop => pure ()

/-- Runs a part of the worker. -/
def perform {α : Type} : Flow Host α → IO α
  | Flow.done a => pure a
  | Flow.ask r next => do perform (next (← answer r))

end BenchQueue.CommandLine

/-- Runs the worker; a failure is reported and ends it with the number one. -/
def main : IO UInt32 := do
  match ← BenchQueue.CommandLine.perform BenchQueue.Worker.Program.work with
  | .ok () => return 0
  | .error report =>
    for line in report.lines do IO.eprintln line
    return 1
