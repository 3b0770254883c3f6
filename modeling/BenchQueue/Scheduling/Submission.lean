import BenchQueue.Effect
import BenchQueue.Scheduling.Config
/-!
# Submitting a request

A request is refused when the same work has already finished or when its identifier is queued. The
lookup of finished work and the change of the queue are two steps; other tasks may come between
them.
-/

namespace BenchQueue.Scheduling

/-- Submits a request. -/
def submit (c : Config) (r : Request) : Task (Except Store.Error Submission) := do
  match ← Task.recordExists (.forIdentifier r.identifier) .finished with
  | .error e => pure (.error e)
  | .ok true => pure (.ok (.duplicate .alreadyFinished))
  | .ok false =>
    let submission ← Task.ask (.enqueue c.defaultRetries r)
    pure (.ok submission)

/-- Admits the oldest waiting element if a slot is free. -/
def dispatchOne (c : Config) : Task (Option Element) :=
  Task.ask (.dispatch c.maxConcurrentJobs.toNat)

/-- The identifier of the most recent finished run of a source and benchmark type for another
commit. -/
def previousFinished (source benchmarkType excluding : String) :
    Task (Except Store.Error (Option Run.Identifier)) := do
  let found : Except Store.Error (Option Run.Record) ←
    Task.store (.previousFinished source benchmarkType excluding)
  pure (found.map fun r => r.map (·.identifier))

/-- The commit of the most recent finished run of a source. -/
def latestGitRef (source : String) : Task (Except Store.Error (Option String)) := do
  let found : Except Store.Error (Option Run.Record) ← Task.store (.latestFinished source)
  pure (found.map fun r => r.map (·.identifier.gitRef))

/-- The text of a failure of the store while scheduling. -/
def failureText (e : Store.Error) : String := "store error: " ++ e.message

end BenchQueue.Scheduling
