import BenchQueue.Effect
import BenchQueue.Run.State
/-!
# The life of a run

A run is created with its record, prepared, executed under a deadline and cleaned up. Once the
record says that a run has started, a terminal status is recorded on every way out of the execution:
when the provider fails or breaks down, and when the deadline passes first.
-/

namespace BenchQueue.Run

/-- The failure of a request to the files of a machine. -/
def ioError (fault : Machine.Fault) : Error := .io fault.text

/-- Creates a run with a configuration: makes a provider, inserts the record and hands both
identities to the provider. -/
def createWith (identifier : Identifier) (config : Config) : Task (Except Error State) := do
  let id ← Task.ask .newId
  match ← Task.ask (.createProvider config.infra) with
  | .error e => pure (.error (.configInvalid e.message))
  | .ok provider =>
    let () ← Task.ask (.provider provider (.setConfig config.infra))
    let () ← Task.ask (.provider provider (.setExecUuid id))
    let now ← Task.wallClock
    match ← Task.insertRecord (.created id identifier now) with
    | .error e => pure (.error (.store e))
    | .ok () =>
      let () ← Task.ask (.provider provider (.setTags (State.tags identifier)))
      pure (.ok { id, identifier, status := .created, createdAt := now, config,
                  workflow := config.workflow, provider })

/-- Creates a run with the configuration in a file. -/
def create (identifier : Identifier) (configPath : String) : Task (Except Error State) := do
  let content ← Task.ask (.readFile configPath)
  match Config.ofFile configPath content with
  | .error e => pure (.error e)
  | .ok config =>
    match ← createWith identifier config with
    | .error e => pure (.error e)
    | .ok s => pure (.ok { s with configPath := some configPath })

namespace State

/-- Writes the configuration of a run into its directory, unless it came from a file. -/
def resolveConfig (s : State) (dir : String) : Task (Except Error State) :=
  match s.configPath with
  | some _ => pure (.ok s)
  | none =>
    match s.config.render with
    | .error e => pure (.error e)
    | .ok text => do
      let path := Machine.joinNames dir resolvedConfigFile
      match ← Task.ask (.writeFile path text) with
      | .error fault => pure (.error (ioError fault))
      | .ok () => pure (.ok { s with configPath := some path })

/-- Makes the directory of a run and prepares its provider. A run that is prepared stays as it is;
one whose preparation fails keeps what was done. -/
def prepare (s : State) : Task (Except Error Unit × State) := do
  if s.prepared then return (.ok (), s)
  let dir := Machine.joinNames s.config.rootDir s.id.text
  match ← Task.ask (.makeDirs dir) with
  | .error fault => pure (.error (.directoryCreateFailed dir fault.text), s)
  | .ok () =>
    let s := { s with dirPath := some dir }
    match ← Task.ask (.provider s.provider .prepare) with
    | Except.error e => pure (.error (.infraPrepareFailed e), s)
    | Except.ok () =>
      match ← s.resolveConfig dir with
      | .error e => pure (.error e, s)
      | .ok s =>
        let workflow := { s.workflow with extraVars := s.config.workflow.extraVars }
        pure (.ok (), { s with workflow, prepared := true })

/-- Sends the output of the workflow to files in the directory of the run. -/
def openOutputs (s : State) : Task (Except Error Unit × State) := do
  match s.dirPath, s.prepared with
  | some dir, true =>
    let stdout := Machine.joinNames dir stdoutFile
    let stderr := Machine.joinNames dir stderrFile
    match ← Task.ask (.openLog stdout) with
    | .error fault => pure (.error (ioError fault), s)
    | .ok () =>
      let s := { s with logPath := some stdout }
      match ← Task.ask (.openLog stderr) with
      | .error fault => pure (.error (ioError fault), s)
      | .ok () =>
        let workflow := { s.workflow with stdoutPath := some stdout, stderrPath := some stderr }
        pure (.ok (), { s with workflow })
  | _, _ => pure (.error .notPrepared, s)

/-- Writes a line into the log of a run, if it is open. -/
def log (s : State) (line : String) : Task Unit :=
  match s.logPath with
  | some path => Task.ask (.appendLog path (line ++ "\n"))
  | none => pure ()

/-- Moves a run to a status, first in the store and then in the run itself. -/
def transition (s : State) (status : Status) : Task (Except Error Unit × State) := do
  let now ← Task.wallClock
  match ← Task.updateStatus s.id status now with
  | .error e => pure (.error (.store e), s)
  | .ok () => pure (.ok (), s.withStatus status now)

/-- Runs the workflow on the machines that were provisioned. -/
def runWorkflow (s : State) (deadline : Duration) (limit : Option Instant) :
    Task (Except Error Unit) := do
  match ← Task.ask (.supervised s.provider (.run s.workflow) limit) with
  | .expired => pure (.error (.timeout deadline))
  | .panicked => pure (.error (.runFailed "workflow panicked"))
  | .returned (Except.error e) => pure (.error (.runFailed e.message))
  | .returned (Except.ok ()) => pure (.ok ())

/-- Provisions machines and runs the workflow on them, both before an instant. -/
def provisionAndRun (s : State) (deadline : Duration) (limit : Option Instant) :
    Task (Except Error Unit × State) := do
  match ← Task.ask (.supervised s.provider .provision limit) with
  | .expired => pure (.error (.timeout deadline), s)
  | .panicked => pure (.error (.provisionFailed (.provision "provisioning panicked")), s)
  | .returned (Except.error e) => pure (.error (.provisionFailed e), s)
  | .returned (Except.ok hosts) =>
    let s := s.withVariables hosts
    pure (← s.runWorkflow deadline limit, s)

/-- The status that the outcome of an execution is recorded with. -/
def terminalStatus : Except Error Unit → Status
  | .ok () => .finished
  | .error _ => .failed

/-- Records the end of an execution. The failure of the execution outweighs that of the store. -/
def conclude (s : State) (result : Except Error Unit) : Task (Except Error Unit × State) := do
  let (recorded, s) ← s.transition (terminalStatus result)
  match result, recorded with
  | .ok (), recorded => pure (recorded, s)
  | .error e, .ok () =>
    s.log (s.failureLine e)
    pure (.error e, s)
  | .error e, .error _ => pure (.error e, s)

/-- Executes a prepared run under a deadline. -/
def execute (s : State) (deadline : Duration) : Task (Except Error Unit × State) := do
  if !s.prepared then return (.error .notPrepared, s)
  match ← s.transition .started with
  | (.error e, s) => pure (.error e, s)
  | (.ok (), s) =>
    s.log s.startLine
    let now ← Task.instant
    let (result, s) ← s.provisionAndRun deadline (now.after? deadline)
    s.conclude result

/-- Gives back what the provider holds during an execution. -/
def cleanUp (s : State) : Task (Except Error Unit) := do
  match ← Task.ask (.provider s.provider .cleanUp) with
  | Except.error e => pure (.error (.cleanUpFailed e))
  | Except.ok () => pure (.ok ())

end State

end BenchQueue.Run
