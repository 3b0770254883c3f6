import BenchQueue.Json.Fields
import BenchQueue.Rehearsal.Step
import BenchQueue.Run.Executor
/-!
# Plans of rehearsals

A plan is an object that says which collaborators are played and how, which files a machine has and
which steps are taken. What it leaves out is played in the usual way: attempts and calls succeed at
once.
-/

namespace BenchQueue.Rehearsal

/-- The ending that a word stands for. -/
def AttemptEnding.ofWord : String → AttemptEnding
  | "fail" => .fail
  | "panic" => .panic
  | "record" => .record
  | _ => .ok

/-- The word for an ending. -/
def AttemptEnding.word : AttemptEnding → String
  | .ok => "ok"
  | .fail => "fail"
  | .panic => "panic"
  | .record => "record"

/-- Reads a played attempt. -/
def PlayedAttempt.ofJson (json : Json) : PlayedAttempt :=
  { millis := json.natOr "ms" 0, ending := .ofWord (json.textOr "result" "ok") }

/-- Reads played attempts. -/
def attemptScriptOfJson (json : Json) : AttemptScript :=
  (json.membersOf "script").map fun (name, list) =>
    (name, (list.arr?.getD []).map PlayedAttempt.ofJson)

/-- Reads the failure of a provider from its kind and its text. -/
def infraErrorOfJson (json : Json) : Infra.Error :=
  let text := json.textOr "message" ""
  match json.textOr "error" "" with
  | "Unsupported" => .unsupported text
  | "Prepare" => .prepare text
  | "Provision" => .provision text
  | "CleanUp" => .cleanUp text
  | "Io" => .io text
  | _ => .run text

/-- Reads a played call from a member. -/
def PlayedCall.ofMember (json : Json) (name : String) : PlayedCall :=
  match json.given? name with
  | none => {}
  | some call =>
    { millis := call.natOr "ms" 0
      panics := call.boolOr "panic" false
      failure := (call.given? "error").map fun _ => infraErrorOfJson call
      hosts := ((call.get? "hosts").bind Json.texts?).getD ({} : PlayedCall).hosts }

/-- Reads a played provider. -/
def ProviderScript.ofJson (json : Json) : ProviderScript :=
  { creation := (json.given? "create").map infraErrorOfJson
    prepare := .ofMember json "prepare"
    provision := .ofMember json "provision"
    run := .ofMember json "run"
    cleanUp := .ofMember json "clean_up" }

/-- Reads the played providers of a plan; none are played if it does not say. -/
def providersOfJson (json : Json) : Option (List ProviderScript) :=
  (json.given? "infra").map fun list => (list.arr?.getD []).map ProviderScript.ofJson

/-- Reads a refusal of the store. -/
def StoreFault.ofJson (json : Json) : StoreFault :=
  { call := json.textOr "method" "", skip := json.natOr "skip" 0, times := json.natOr "times" 1 }

/-- Reads a played measurement: a summary, a failure of the database, or no result. -/
def measurementOfJson (json : Json) : PlayedMeasurement :=
  match json with
  | .str summary => some (.ok summary)
  | _ =>
    if json.textOr "error" "" = "Database" then
      some (.error (.database (json.textOr "message" "")))
    else none

/-- Reads played measurements from a member. -/
def measurementsOfMember (json : Json) (name : String) : Members PlayedMeasurement :=
  (json.membersOf name).map fun (name, m) => (name, measurementOfJson m)

/-- Reads a played notifier. -/
def Notifier.ofMember (json : Json) (name : String) : Notifier :=
  match json.given? name with
  | some (.str _) => .discarded
  | some n => .played { numbers := (n.itemsOf "reject").filterMap Json.nat?,
                        status := n.natOr "status" 500, message := n.textOr "message" "" }
  | none => .played {}

/-- Reads how runs are compared. -/
def Comparisons.ofJson? (json : Json) : Option Comparisons := do
  let config ← json.decodeEmbeddedOr? "config" {} Comparison.Config.ofJson?
  pure { config
         measurements :=
           .played (measurementsOfMember json "micro") (measurementsOfMember json "macro")
         notifier := .ofMember json "notifier" }

/-- Reads who makes the attempts, with the providers that are played for them. -/
def Executor.ofJson? (json : Json) : Option (Executor × Option (List ProviderScript)) := do
  if json.textOr "kind" "" = "lifecycle" then
    let deadline ← match json.given? "deadline" with
      | some d => d.duration?
      | none => pure Run.defaultDeadline
    pure (.fromFiles deadline, providersOfJson json)
  else pure (.played (attemptScriptOfJson json), none)

/-- The bytes of a planned file. -/
def fileBytes (json : Json) : ByteArray :=
  match json.get? "text" with
  | some (.str text) => text.toUTF8
  | _ => ByteArray.mk ((json.itemsOf "bytes").map fun b => UInt8.ofNat (b.nat?.getD 0)).toArray

/-- Adds a planned file with the directories around it. -/
def addFile (fs : Machine.Files) (name : String) (json : Json) : Machine.Files :=
  let path := Machine.Files.plainParts name
  let parents := (fs.makeDirsAt [] path.dropLast).toOption.getD fs
  parents.set path (.file (fileBytes json) (json.boolOr "exec" false))

/-- The machine with an empty directory and the planned files. -/
def filesOfJson (directory : Machine.Path) (json : Json) : Machine.Files :=
  let empty := ((({} : Machine.Files).makeDirsAt [] directory).toOption).getD {}
  (json.membersOf "files").foldl (fun fs (name, file) => addFile fs name file) empty

/-- Reads the world of a plan on a machine with an empty directory. -/
def World.ofPlan? (directory : Machine.Path) (startOfDay : Timestamp) (json : Json) :
    Option World := do
  let scheduler ← json.decodeEmbeddedOr? "scheduler" {} Scheduling.Config.ofJson?
  let comparisons ← match json.given? "comparator" with
    | some c => (Comparisons.ofJson? c).map some
    | none => pure none
  let (executor, scripts) ← match json.given? "executor" with
    | some e => Executor.ofJson? e
    | none => pure (.played [], providersOfJson json)
  pure { startOfDay, scheduler := scheduler.normalized, executor, scripts, comparisons
         faults := (json.itemsOf "fail_store").map StoreFault.ofJson
         host := { files := filesOfJson directory json }, cwd := directory }

/-- Reads a request, in full or by its parts. -/
def requestOfJson? (json : Json) : Option Scheduling.Request :=
  match json.get? "build" with
  | some parts => Scheduling.Request.ofJson? parts
  | none => json.decodeEmbedded? "request" Scheduling.Request.ofJson?

/-- Reads an identifier from a member. -/
def identifierOfMember? (json : Json) (name : String) : Option Run.Identifier :=
  json.decodeEmbedded? name Run.Identifier.ofJson?

/-- Reads a status from a member. -/
def statusOfMember? (json : Json) (name : String) : Option Run.Status :=
  (json.get? name).bind Run.Status.ofJson?

/-- Reads a step. -/
def Step.ofJson? (json : Json) : Option Step := do
  let text (name : String) : Option String := (json.get? name).bind Json.str?
  match json.textOr "do" "" with
  | "submit" => return .submit (← requestOfJson? json)
  | "dispatch" => pure .dispatch
  | "execute" => pure .execute
  | "spawn" => pure .spawn
  | "join" => pure .join
  | "contains" => return .contains (← identifierOfMember? json "identifier")
  | "element" => return .element (← identifierOfMember? json "identifier")
  | "is_empty" => pure .isEmpty
  | "config" => pure .config
  | "exists" =>
    return .exists_ (← identifierOfMember? json "identifier") (← statusOfMember? json "status")
  | "previous" => return .previous (← text "source") (← text "benchmark_type") (← text "excluding")
  | "latest" => return .latest (← text "source")
  | "record" =>
    let status ← match json.given? "status" with
      | some _ => statusOfMember? json "status"
      | none => pure .finished
    return .record (← identifierOfMember? json "identifier") status
  | "records" => pure .records
  | "fail_store" => pure (.refuse (.ofJson json))
  | "cron" =>
    return .submitRef (json.textsOf "benchmarks") (← text "git_ref") (json.textOr "run_config" "")
  | "run" => pure .run
  | "run_join" => pure .runJoin
  | "sleep" => pure (.sleep (json.natOr "ms" 0))
  | "shutdown" => pure (.send (json.boolOr "value" true))
  | "drop_shutdown" => pure .closeSignal
  | "compare" =>
    let targets ← (json.itemsOf "targets").mapM Run.Identifier.ofJson?
    return .compare (← identifierOfMember? json "finished") targets
      (json.boolOr "notify_always" false)
  | "compare_join" => pure .compareJoin
  | "git" => return .git (← text "in") (json.textsOf "args")
  | "write" => return .write (← text "path") (← text "text")
  | "read" => return .read (← text "path")
  | "dir" => pure .sourceDir
  | "sync" => pure .sync
  | "head" => pure .head
  | "tick" => pure (.tick (json.textsOf "benchmarks"))
  | "cron_run" => pure (.cronRun (json.textsOf "benchmarks"))
  | _ => none

/-- Reads a column of a prepared reply. -/
def columnOfJson? : Json → Option Column
  | .arr [.str name, .str type] => some (name, type)
  | _ => none

/-- Reads how a prepared reply fails. -/
def failureOfJson? (json : Json) : Option Database.Failure :=
  match json.given? "error" with
  | some e => some (.server (e.textOr "message" ""))
  | none => if json.boolOr "hang_up" false then some .connection else none

/-- Reads a prepared reply. -/
def PreparedReply.ofJson (json : Json) : PreparedReply :=
  { part := json.textOr "match" ""
    times := json.natOr "times" 1
    columns := (json.given? "columns").map fun c => (c.arr?.getD []).filterMap columnOfJson?
    rows := (json.itemsOf "rows").filterMap Json.arr?
    affected := json.natOr "affected" 1
    failure := failureOfJson? json }

/-- Reads prepared replies. -/
def repliesOfMember (json : Json) (name : String) : List PreparedReply :=
  (json.itemsOf name).map .ofJson

end BenchQueue.Rehearsal
