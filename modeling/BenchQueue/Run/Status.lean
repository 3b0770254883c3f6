import BenchQueue.Json.Basic
/-!
# Run statuses

A run is created, then started, and ends as finished or failed.
-/

namespace BenchQueue.Run

/-- How far a run has come. -/
inductive Status
  | created
  | started
  | finished
  | failed
  deriving DecidableEq, Repr, Inhabited

namespace Status

/-- The word that stands for a status in records and queries. -/
def word : Status → String
  | .created => "created"
  | .started => "started"
  | .finished => "finished"
  | .failed => "failed"

/-- The name of a status in diagnostic texts. -/
def name : Status → String
  | .created => "Created"
  | .started => "Started"
  | .finished => "Finished"
  | .failed => "Failed"

/-- The status that a word stands for. -/
def ofWord? : String → Option Status
  | "created" => some .created
  | "started" => some .started
  | "finished" => some .finished
  | "failed" => some .failed
  | _ => none

/-- The word of a status is read as the status. -/
theorem ofWord?_word (s : Status) : ofWord? s.word = some s := by
  cases s <;> rfl

/-- The text about a word that stands for no status. -/
def unknownText (word : String) : String :=
  "unknown run status: " ++ word

/-- Whether a run with that status has ended. -/
def isTerminal : Status → Bool
  | .finished | .failed => true
  | .created | .started => false

/-- Reads a status: its word, or an object whose one member has that word as its name and null as
its value. -/
def ofJson? : Json → Option Status
  | .str word => ofWord? word
  | .obj [(word, .null)] => ofWord? word
  | _ => none

/-- A status as its word. -/
def toJson (s : Status) : Json := .str s.word

end Status

end BenchQueue.Run
