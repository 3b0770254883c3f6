import BenchQueue.Rehearsal.Account
import BenchQueue.Run.Calls
/-!
# Rehearsing one run

A run is created and then taken through its life call by call. After every call the run is looked at
together with its record in the store.
-/

namespace BenchQueue.Rehearsal

/-- A call on a run, or a look at it. -/
inductive RunStep
  | pass
  | call (call : Run.OwnerCall)
  | workflow
  | summary
  | listFiles
  | refuse (fault : StoreFault)
  | removeDir
  deriving DecidableEq, Repr

/-- What a call on a run answers. -/
inductive RunFinding
  | nothing
  | panicked
  | result (result : Except Run.Error Unit)
  | workflow (w : Infra.Workflow)
  | text (t : String)
  | files (files : Option (Members String))

/-- A run after a call, with its record and the time. -/
structure RunReport where
  finding : RunFinding
  state : Run.State
  record : Option Run.Record
  now : Instant

namespace RunStep

/-- Reads a step. -/
def ofJson? (json : Json) : Option RunStep := do
  match json.textOr "do" "" with
  | "prepare" => pure (.call .prepare)
  | "outputs" => pure (.call .openOutputs)
  | "execute" =>
    match json.given? "deadline" with
    | some d => return .call (.execute (← d.duration?))
    | none => pure (.call (.execute Run.defaultDeadline))
  | "clean_up" => pure (.call .cleanUp)
  | "success" => pure (.call .conclude)
  | "workflow" => pure .workflow
  | "debug" => pure .summary
  | "files" => pure .listFiles
  | "fail_store" => pure (.refuse (.ofJson json))
  | "remove_dir" => pure .removeDir
  | _ => none

/-- Makes a call that may break down; a run whose call breaks down stays as it was. -/
def callOn (s : Run.State) (c : Run.OwnerCall) : Act (RunFinding × Run.State) := do
  match ← Act.catchPanic (Session.asMain (s.call c)) with
  | some (result, s) => pure (.result result, s)
  | none => pure (.panicked, s)

/-- The texts of the files in the directory of a run, if it is there. -/
def filesOf (w : World) (s : Run.State) : Option (Members String) := do
  let dir ← s.dirPath
  let path ← (w.files.resolve w.cwd dir).toOption
  if w.files.isDirectory w.cwd dir then some (fileTexts w path) else none

/-- Removes the directory of a run. -/
def removeDirOf (s : Run.State) (w : World) : World :=
  match s.dirPath with
  | none => w
  | some dir =>
    { w with host := { w.host with files := w.files.removeTree (Machine.Files.plainParts dir) } }

/-- Takes a step. -/
def take (s : Run.State) : RunStep → Act (RunFinding × Run.State)
  | .pass => pure (.nothing, s)
  | .call c => callOn s c
  | .workflow => pure (.workflow s.workflow, s)
  | .summary => pure (.text s.summary, s)
  | .listFiles => do
    Act.sleepMillis 1
    return (.files (filesOf (← Act.look) s), s)
  | .refuse fault => do
    Act.change fun w => { w with faults := w.faults ++ [fault] }
    pure (.nothing, s)
  | .removeDir => do
    Act.change (removeDirOf s)
    pure (.nothing, s)

/-- Takes steps in turn and reports each. -/
def takeAll (s : Run.State) : List RunStep → Act (List RunReport)
  | [] => pure []
  | step :: rest => do
    let (finding, s) ← take s step
    let w ← Act.look
    let report := { finding, state := s, record := w.memory.get? s.id, now := w.now }
    return report :: (← takeAll s rest)

end RunStep

/-- What a run is created from. -/
inductive RunSource
  | config (config : Run.Config)
  | file (path : String)

/-- Creates a run. -/
def createRun (run : Run.Identifier) : RunSource → Task (Except Run.Error Run.State)
  | .config config => Run.createWith run config
  | .file path => Run.create run path

/-- Creates a run and takes steps with it; answers the run as it was created and the reports.
Nothing is answered if its creation breaks down. -/
def rehearseRun (w : World) (run : Run.Identifier) (source : RunSource) (steps : List RunStep) :
    Option (Except Run.Error (Run.State × List RunReport)) × World :=
  Engine.rehearse (do
    match ← Session.asMain (createRun run source) with
    | .error e => pure (Except.error e)
    | .ok s => return Except.ok (s, ← RunStep.takeAll s steps)) w

end BenchQueue.Rehearsal
