import BenchQueue.Uuid
/-!
# Failures of a run store
-/

namespace BenchQueue.Store

/-- Why a store did not answer. -/
inductive Error
  | runNotFound (id : Uuid)
  | database (text : String)
  | serialization (text : String)
  deriving DecidableEq, Repr

/-- The text of a failure. -/
def Error.message : Error → String
  | .runNotFound id => "run not found: " ++ id.text
  | .database text => "database error: " ++ text
  | .serialization text => "serialization error: " ++ text

end BenchQueue.Store
