import BenchQueue.Effect
import BenchQueue.Json.Printer
/-!
# The provider on the own machine

This provider runs workflows as commands on the machine of the worker. It provisions the hosts that
its settings list, or the machine itself.
-/

namespace BenchQueue.Infra.Local

/-- The state of the provider. -/
structure Provider where
  config : Config := {}
  execUuid : Option Uuid := none
  tags : Members String := []
  prepared : Bool := false

instance : Inhabited Provider := ⟨{}⟩

/-- The address of the machine itself. -/
def ownAddress : String := "127.0.0.1"

/-- The hosts that settings list, or the machine itself if they list none. -/
def hosts (c : Config) : List String :=
  match c.stringList? "hosts" with
  | some (host :: rest) => host :: rest
  | _ => [ownAddress]

/-- The arguments of the command of a workflow: its inventory, its variables and its playbooks. -/
def arguments (w : Workflow) : List String :=
  (match w.inventory with
    | some inventory => ["-i", inventory]
    | none => []) ++
  ["--extra-vars", (Json.obj w.extraVars).render] ++ w.playbooks

/-- The sink for output that may go to a file. -/
def sink : Option String → Machine.Sink
  | some path => .file path
  | none => .inherited

/-- The command of a workflow. -/
def command (w : Workflow) : Machine.Command :=
  { program := w.command
    arguments := arguments w
    workingDir := w.workingDir
    stdout := sink w.stdoutPath
    stderr := sink w.stderrPath }

/-- What the end of a command means for its workflow. -/
def verdict (w : Workflow) : Except Machine.Fault Machine.Finished → Except Error Unit
  | .error fault => .error (.run ("failed to spawn " ++ w.command ++ ": " ++ fault.text))
  | .ok finished =>
    if finished.status.isSuccess then .ok ()
    else .error (.run (w.command ++ " exited with " ++ finished.status.text))

/-- Opens the file for some output, if there is one. -/
def openSink (path : Option String) : Task (Except Error Unit) :=
  match path with
  | none => pure (.ok ())
  | some path => do
    match ← Task.ask (.openLog path) with
    | .error fault => pure (.error (.io fault.text))
    | .ok () => pure (.ok ())

/-- Runs the command of a workflow. -/
def runWorkflow (w : Workflow) : Task (Except Error Unit) := do
  match ← openSink w.stdoutPath with
  | .error e => pure (.error e)
  | .ok () =>
    match ← openSink w.stderrPath with
    | .error e => pure (.error e)
    | .ok () =>
      let finished ← Task.ask (.command (command w))
      pure (verdict w finished)

/-- Prepares the provider, which must know for which run it works. -/
def prepare (p : Provider) : Except Error Unit × Provider :=
  match p.execUuid with
  | none => (.error (.prepare "exec uuid is not set"), p)
  | some _ => (.ok (), { p with prepared := true })

/-- The hosts of a provider that is prepared. -/
def provision (p : Provider) : Except Error (List String) :=
  if p.prepared then .ok (hosts p.config) else .error (.provision "infra is not prepared")

/-- The answer to a call, and the provider after it. -/
def answer (p : Provider) : (call : Call) → Task (call.Answer × Provider)
  | .setConfig config => pure ((), { p with config })
  | .setExecUuid id => pure ((), { p with execUuid := some id })
  | .setTags tags => pure ((), { p with tags })
  | .prepare => pure (prepare p)
  | .provision => pure (provision p, p)
  | .run w => do
    let result ← runWorkflow w
    pure (result, p)
  | .cleanUp => pure (.ok (), { p with prepared := false })

end BenchQueue.Infra.Local
