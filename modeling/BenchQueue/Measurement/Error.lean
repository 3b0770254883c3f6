/-!
# Failures of a measurement
-/

namespace BenchQueue.Measurement

/-- Why two runs could not be measured against each other. -/
inductive Error
  | noResult (run : String)
  | database (text : String)
  deriving DecidableEq, Repr

/-- The text of a failure. -/
def Error.message : Error → String
  | .noResult run => "no comparison result for " ++ run
  | .database text => "database error: " ++ text

end BenchQueue.Measurement
