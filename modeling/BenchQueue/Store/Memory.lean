import BenchQueue.Store.Call
/-!
# Records in memory

A store that keeps its records in a list, at most one for an identity. Of several records that
match a lookup the most recent one is answered: the one that was started last, where a record that
was never started comes before all others, then the one created last, then the one with the
greatest identity.
-/

namespace BenchQueue.Store

/-- The records in the order of their insertion. -/
structure Memory where
  records : List Run.Record := []
  deriving Repr, Inhabited

namespace Memory

/-- The order of points in time that may be missing; a missing one is the least. -/
def compareOptional : Option Timestamp → Option Timestamp → Ordering
  | none, none => .eq
  | none, some _ => .lt
  | some _, none => .gt
  | some a, some b => a.compare b

/-- The order of records by start, creation and identity. -/
def recency (a b : Run.Record) : Ordering :=
  (compareOptional a.startedAt b.startedAt).then
    ((a.createdAt.compare b.createdAt).then (a.id.compare b.id))

/-- The more recent of two records. -/
def later (a b : Run.Record) : Run.Record :=
  if recency a b = .lt then b else a

/-- The record with an identity. -/
def get? (m : Memory) (id : Uuid) : Option Run.Record :=
  m.records.find? (·.id = id)

/-- The most recent record that satisfies a condition. -/
def mostRecent? (m : Memory) (condition : Run.Record → Bool) : Option Run.Record :=
  match m.records.filter condition with
  | [] => none
  | r :: rest => some (rest.foldl later r)

/-- Adds a record whose identity is new. -/
def insert (m : Memory) (record : Run.Record) : Except Error Memory :=
  if (m.get? record.id).isSome then .error (.database ("duplicate run id: " ++ record.id.text))
  else .ok { records := m.records ++ [record] }

/-- Changes the status of the record with an identity. -/
def updateStatus (m : Memory) (id : Uuid) (status : Run.Status) (at_ : Timestamp) :
    Except Error Memory :=
  if (m.get? id).isSome then
    .ok { records := m.records.map fun r => if r.id = id then r.withStatus status at_ else r }
  else .error (.runNotFound id)

/-- Whether a record is finished and satisfies a condition. -/
def finishedAnd (condition : Run.Record → Bool) (r : Run.Record) : Bool :=
  r.status = .finished && condition r

/-- Whether a record is of a source and benchmark type, but not for a commit. -/
def isPrevious (source benchmarkType excluding : String) (r : Run.Record) : Bool :=
  r.identifier.source == source && r.identifier.benchmarkType == benchmarkType &&
    r.identifier.gitRef != excluding

/-- The reply to a request, and the records after it. -/
def answer (m : Memory) : (call : Call) → call.Reply × Memory
  | .insert record =>
    match m.insert record with
    | .ok m => (.ok (), m)
    | .error e => (.error e, m)
  | .updateStatus id status at_ =>
    match m.updateStatus id status at_ with
    | .ok m => (.ok (), m)
    | .error e => (.error e, m)
  | .get id => (.ok (m.get? id), m)
  | .exists_ filter status =>
    (.ok (m.records.any fun r => r.status = status && filter.accepts r), m)
  | .findFinished filter => (.ok (m.mostRecent? (finishedAnd filter.accepts)), m)
  | .previousFinished source benchmarkType excluding =>
    (.ok (m.mostRecent? (finishedAnd (isPrevious source benchmarkType excluding))), m)
  | .latestFinished source =>
    (.ok (m.mostRecent? (finishedAnd fun r => r.identifier.source == source)), m)

/-- The order of records by creation and identity. -/
def creation (a b : Run.Record) : Ordering :=
  (a.createdAt.compare b.createdAt).then (a.id.compare b.id)

/-- The records in the order of their creation. -/
def byCreation (m : Memory) : List Run.Record :=
  m.records.mergeSort fun a b => creation a b ≠ .gt

end Memory

end BenchQueue.Store
