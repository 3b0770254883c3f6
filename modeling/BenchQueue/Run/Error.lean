import BenchQueue.Infra.Error
import BenchQueue.Store.Error
import BenchQueue.Time.Duration
/-!
# Failures of a run

A failure may carry the name of the step in which it arose; its root is the failure without such
names.
-/

namespace BenchQueue.Run

/-- Why a run failed. -/
inductive Error
  | configInvalid (text : String)
  | store (cause : Store.Error)
  | notPrepared
  | directoryCreateFailed (path text : String)
  | infraPrepareFailed (cause : Infra.Error)
  | provisionFailed (cause : Infra.Error)
  | runFailed (text : String)
  | timeout (deadline : Duration)
  | cleanUpFailed (cause : Infra.Error)
  | io (text : String)
  | step (name : String) (cause : Error)
  deriving DecidableEq, Repr

namespace Error

/-- The text of a failure. -/
def message : Error → String
  | .configInvalid text => "invalid configuration: " ++ text
  | .store cause => "store error: " ++ cause.message
  | .notPrepared => "run is not prepared"
  | .directoryCreateFailed path text => "failed to create run directory " ++ path ++ ": " ++ text
  | .infraPrepareFailed cause => "infrastructure prepare failed: " ++ cause.message
  | .provisionFailed cause => "provisioning failed: " ++ cause.message
  | .runFailed text => "run failed: " ++ text
  | .timeout deadline => "execution timed out after " ++ deadline.text
  | .cleanUpFailed cause => "clean up failed: " ++ cause.message
  | .io text => "io error: " ++ text
  | .step name cause => name ++ " step error: " ++ cause.message

/-- The failure without the names of steps around it. -/
def root : Error → Error
  | .step _ cause => cause.root
  | error => error

end Error

end BenchQueue.Run
