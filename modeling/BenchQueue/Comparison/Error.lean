import BenchQueue.Measurement.Error
import BenchQueue.Notify.Error
import BenchQueue.Store.Error
import BenchQueue.Time.Duration
/-!
# Failures of a comparison
-/

namespace BenchQueue.Comparison

/-- Why a comparison ended before every target was compared. -/
inductive Error
  | store (cause : Store.Error)
  | measurement (cause : Measurement.Error)
  | notify (cause : Notify.Error)
  | timeout (unmatched : Nat) (budget : Duration)
  | cancelled
  deriving DecidableEq, Repr

/-- The text of a failure. -/
def Error.message : Error → String
  | .store cause => "store error: " ++ cause.message
  | .measurement cause => "measurement error: " ++ cause.message
  | .notify cause => "notification error: " ++ cause.message
  | .timeout unmatched budget =>
    toString unmatched ++ " comparison target(s) did not finish within " ++ budget.text
  | .cancelled => "comparison cancelled"

end BenchQueue.Comparison
