import BenchQueue.Database.Condition
import BenchQueue.Store.Call
/-!
# Records in a database

Every request to the store is one statement on the table of runs, and its answer is read from the
reply of the database.
-/

namespace BenchQueue.Store.Table

open Database (Condition Reply Statement Value)

/-- The columns of a run. -/
def columns : String :=
  "id, status, source, git_ref, benchmark_type, planner_version, pull_nb, " ++
    "created_at, started_at, finished_at"

/-- The condition that a run is finished, as a word of the statement. -/
def finishedWord : Condition := .equalsWord .status Run.Status.finished.word

/-- The conditions of a lookup. -/
def conditions : Call → List Condition
  | .exists_ filter status =>
    .equals .status (.text status.word) :: Database.filterConditions filter
  | .findFinished filter => finishedWord :: Database.filterConditions filter
  | .previousFinished source benchmarkType excluding =>
    [finishedWord, .equals .source (.text source), .equals .benchmarkType (.text benchmarkType),
      .differs .gitRef (.text excluding)]
  | .latestFinished source => [finishedWord, .equals .source (.text source)]
  | .get id => [.equals .id (.identity id)]
  | .insert _ | .updateStatus _ _ _ => []

/-- The order of the most recent runs. -/
def mostRecent : String := " ORDER BY started_at DESC NULLS LAST, created_at DESC LIMIT 1"

/-- The statement that selects the runs of a lookup. -/
def selection (call : Call) (order : String) : Statement :=
  { sql := "SELECT " ++ columns ++ " FROM execution WHERE " ++
      Database.conjunction "" (conditions call) ++ order
    params := Database.boundValues (conditions call) }

/-- The statement that adds a run. -/
def insertion (r : Run.Record) : Statement :=
  { sql := "INSERT INTO execution (id, status, source, git_ref, benchmark_type, " ++
      "planner_version, pull_nb, created_at) VALUES ($1, $2, $3, $4, $5, $6, $7, $8)"
    params := [.uuid r.id, .text r.status.word,
      .text r.identifier.source, .text r.identifier.gitRef,
      .text r.identifier.benchmarkType, .text r.identifier.plannerVersion,
      .int32 r.identifier.pullNumber, .time r.createdAt] }

/-- The statement that changes the status of a run, with the time of its start or end. -/
def statusUpdate (id : Uuid) (status : Run.Status) (at_ : Timestamp) : Statement :=
  let dated (column : String) : Statement :=
    { sql := "UPDATE execution SET status = $2, " ++ column ++ " = $3 WHERE id = $1"
      params := [.uuid id, .text status.word, .time at_] }
  match status with
  | .created =>
    { sql := "UPDATE execution SET status = $2 WHERE id = $1"
      params := [.uuid id, .text status.word] }
  | .started => dated "started_at"
  | .finished | .failed => dated "finished_at"

/-- The statement of a request. -/
def statement : Call → Statement
  | .insert record => insertion record
  | .updateStatus id status at_ => statusUpdate id status at_
  | .get id => selection (.get id) ""
  | .exists_ filter status =>
    let conditions := conditions (.exists_ filter status)
    { sql := "SELECT EXISTS (SELECT 1 FROM execution WHERE " ++
        Database.conjunction "" conditions ++ ")"
      params := Database.boundValues conditions }
  | .findFinished filter => selection (.findFinished filter) mostRecent
  | .previousFinished source benchmarkType excluding =>
    selection (.previousFinished source benchmarkType excluding) mostRecent
  | .latestFinished source => selection (.latestFinished source) mostRecent

/-- A failure of the database as one of the store. -/
def storeError (f : Database.Failure) : Error := .database f.message

/-- A decoded cell, or the failure of the store. -/
def cell {α : Type} (value : Except Database.Failure α) : Except Error α :=
  value.mapError storeError

/-- Reads a run from a row. The word of the status is looked at before all other columns but the
identity. -/
def recordOfRow (row : Database.Row) : Except Error Run.Record := do
  let word ← cell (row.required "status" Value.text?)
  let id ← cell (row.required "id" Value.uuid?)
  let status ← match Run.Status.ofWord? word with
    | some status => pure status
    | none => throw (.serialization (Run.Status.unknownText word))
  let source ← cell (row.required "source" Value.text?)
  let gitRef ← cell (row.required "git_ref" Value.text?)
  let benchmarkType ← cell (row.required "benchmark_type" Value.text?)
  let plannerVersion ← cell (row.required "planner_version" Value.text?)
  let pullNumber ← cell (row.required "pull_nb" Value.int32?)
  let createdAt ← cell (row.required "created_at" Value.time?)
  let startedAt ← cell (row.optional "started_at" Value.time?)
  let finishedAt ← cell (row.optional "finished_at" Value.time?)
  pure { id, identifier := { source, gitRef, benchmarkType, plannerVersion, pullNumber },
         status, createdAt, startedAt, finishedAt }

/-- Reads the run that a reply may hold. -/
def readRecord (reply : Reply) : Except Error (Option Run.Record) := do
  match (← cell reply).row? with
  | none => pure none
  | some row => return some (← recordOfRow row)

/-- Reads the answer to a request. -/
def decode : (call : Call) → Reply → call.Reply
  | .insert _, reply => (cell reply).map fun _ => ()
  | .updateStatus id _ _, reply => do
    let result ← cell reply
    if result.affected = 0 then throw (.runNotFound id)
    pure ()
  | .get _, reply => readRecord reply
  | .exists_ _ _, reply => do
    let row ← cell ((← cell reply).row)
    cell (row.first Value.bool?)
  | .findFinished _, reply => readRecord reply
  | .previousFinished _ _ _, reply => readRecord reply
  | .latestFinished _, reply => readRecord reply

/-- Answers a request from a database. -/
def answer (call : Call) : Flow Database.Sql call.Reply := do
  let reply ← Database.query (statement call)
  pure (decode call reply)

end BenchQueue.Store.Table
