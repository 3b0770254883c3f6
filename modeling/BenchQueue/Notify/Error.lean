/-!
# Failures of a notification
-/

namespace BenchQueue.Notify

/-- Why a notification was not delivered. -/
inductive Error
  | http (text : String)
  | rejected (status : Nat) (body : String)
  deriving DecidableEq, Repr

/-- The text of a failure. -/
def Error.message : Error → String
  | .http text => "HTTP error: " ++ text
  | .rejected status body => "notification rejected (" ++ toString status ++ "): " ++ body

end BenchQueue.Notify
