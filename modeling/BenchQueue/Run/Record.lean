import BenchQueue.Run.Identifier
import BenchQueue.Run.Status
import BenchQueue.Time.Timestamp
import BenchQueue.Uuid
/-!
# Records of runs

A record says for which identifier a run was made, how far it has come and when. A filter selects
records by the fields of their identifier; the filter of an identifier selects the records of the
same work, which for a micro benchmark includes those of other query planners.
-/

namespace BenchQueue.Run

/-- A run as the store keeps it. -/
structure Record where
  id : Uuid
  identifier : Identifier
  status : Status
  createdAt : Timestamp
  startedAt : Option Timestamp
  finishedAt : Option Timestamp
  deriving DecidableEq, Repr, Inhabited

namespace Record

/-- The record of a run that was just created. -/
def created (id : Uuid) (identifier : Identifier) (now : Timestamp) : Record :=
  { id, identifier, status := .created, createdAt := now, startedAt := none, finishedAt := none }

/-- The record after a change of status: the time of a start and the time of an end are kept. -/
def withStatus (r : Record) (status : Status) (at_ : Timestamp) : Record :=
  { r with
    status
    startedAt := if status = .started then some at_ else r.startedAt
    finishedAt := if status.isTerminal then some at_ else r.finishedAt }

/-- A point in time as its written form. -/
def timeToJson (t : Timestamp) : Json := .str t.text

/-- Reads a point in time. -/
def timeOfJson? (json : Json) : Option Timestamp :=
  json.str?.bind Timestamp.parse?

/-- A record as an object. -/
def toJson (r : Record) : Json :=
  .obj <| ("id", .str r.id.text) :: r.identifier.members ++
    [("status", r.status.toJson), ("created_at", timeToJson r.createdAt),
      ("started_at", Json.ofOption timeToJson r.startedAt),
      ("finished_at", Json.ofOption timeToJson r.finishedAt)]

/-- Reads a record; only the times of start and end may be left out. -/
def ofJson? (json : Json) : Option Record := do
  let r ← json.record? ["id", "source", "git_ref", "benchmark_type", "planner_version", "pull_nb",
    "status", "created_at", "started_at", "finished_at"]
  let id ← r.required "id" fun j => j.str?.bind Uuid.parse?
  let source ← r.required "source" Json.str?
  let gitRef ← r.required "git_ref" Json.str?
  let benchmarkType ← r.required "benchmark_type" Json.str?
  let plannerVersion ← r.required "planner_version" Json.str?
  let pullNumber ← r.required "pull_nb" Json.int32?
  let status ← r.required "status" Status.ofJson?
  let createdAt ← r.required "created_at" timeOfJson?
  let startedAt ← r.optional "started_at" timeOfJson?
  let finishedAt ← r.optional "finished_at" timeOfJson?
  pure { id, identifier := { source, gitRef, benchmarkType, plannerVersion, pullNumber },
         status, createdAt, startedAt, finishedAt }

end Record

/-- A condition on the identifier of a record; a field that is not given is not constrained. -/
structure Filter where
  source : Option String := none
  gitRef : Option String := none
  benchmarkType : Option String := none
  plannerVersion : Option String := none
  pullNumber : Option Int32 := none
  deriving DecidableEq, Repr, Inhabited

namespace Filter

/-- The filter for the same work: every field of the identifier, the planner of a micro benchmark
excepted. -/
def forIdentifier (i : Identifier) : Filter :=
  { source := some i.source
    gitRef := some i.gitRef
    benchmarkType := some i.benchmarkType
    plannerVersion := if i.kind.isMicro then none else some i.plannerVersion
    pullNumber := some i.pullNumber }

/-- Whether a value is the wanted one, if one is wanted. -/
def admits {α : Type} [DecidableEq α] (wanted : Option α) (value : α) : Bool :=
  wanted.all (· = value)

/-- Whether an identifier satisfies a filter. -/
def matchesIdentifier (f : Filter) (i : Identifier) : Bool :=
  admits f.source i.source && admits f.gitRef i.gitRef &&
    admits f.benchmarkType i.benchmarkType && admits f.plannerVersion i.plannerVersion &&
    admits f.pullNumber i.pullNumber

/-- Whether a record satisfies a filter. -/
def accepts (f : Filter) (r : Record) : Bool :=
  f.matchesIdentifier r.identifier

/-- The filter for an identifier accepts the identifier. -/
theorem forIdentifier_matchesIdentifier (i : Identifier) :
    (forIdentifier i).matchesIdentifier i = true := by
  simp only [forIdentifier, matchesIdentifier, admits]
  split <;> simp

end Filter

end BenchQueue.Run
