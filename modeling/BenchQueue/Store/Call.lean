import BenchQueue.Run.Record
import BenchQueue.Store.Error
/-!
# Requests to a store of records

What may be asked of a store of run records, and what it answers. A store may answer any of these
with a failure.
-/

namespace BenchQueue.Store

/-- A request to a store. -/
inductive Call
  | insert (record : Run.Record)
  | updateStatus (id : Uuid) (status : Run.Status) (at_ : Timestamp)
  | get (id : Uuid)
  | exists_ (filter : Run.Filter) (status : Run.Status)
  | findFinished (filter : Run.Filter)
  | previousFinished (source benchmarkType excluding : String)
  | latestFinished (source : String)
  deriving DecidableEq, Repr

/-- What a store answers to a request. -/
def Call.Answer : Call → Type
  | .insert _ | .updateStatus _ _ _ => Unit
  | .exists_ _ _ => Bool
  | .get _ | .findFinished _ | .previousFinished _ _ _ | .latestFinished _ => Option Run.Record

/-- The name of the kind of a request. -/
def Call.name : Call → String
  | .insert _ => "insert"
  | .updateStatus _ _ _ => "update_status"
  | .get _ => "get"
  | .exists_ _ _ => "exists"
  | .findFinished _ => "find_finished"
  | .previousFinished _ _ _ => "previous_finished"
  | .latestFinished _ => "latest_finished_for_source"

/-- A reply to a request: its answer or a failure. -/
abbrev Call.Reply (call : Call) : Type := Except Error call.Answer

end BenchQueue.Store
