/-!
# Failures of a provider of machines
-/

namespace BenchQueue.Infra

/-- Why a provider did not do what it was asked. -/
inductive Error
  | unsupported (kind : String)
  | prepare (text : String)
  | provision (text : String)
  | run (text : String)
  | cleanUp (text : String)
  | io (text : String)
  deriving DecidableEq, Repr

/-- The text of a failure. -/
def Error.message : Error → String
  | .unsupported kind => "unsupported infrastructure provider: " ++ kind
  | .prepare text => "prepare failed: " ++ text
  | .provision text => "provision failed: " ++ text
  | .run text => "run failed: " ++ text
  | .cleanUp text => "clean up failed: " ++ text
  | .io text => "io error: " ++ text

end BenchQueue.Infra
