import BenchQueue.Comparison.Config
import BenchQueue.Run.Identifier
/-!
# Messages about comparisons
-/

namespace BenchQueue.Comparison

/-- A link to the commit of a run, with its source behind it. -/
def commitLink (repository : String) (run : Run.Identifier) : String :=
  "<" ++ repository ++ "/commit/" ++ run.gitRef ++ "|" ++ run.shortRef ++ "> (" ++ run.source ++ ")"

/-- The message about one compared pair. An empty summary means that nothing got worse. -/
def message (repository : String) (current target : Run.Identifier) (summary : String) : String :=
  (if summary = "" then "Benchmark comparison." else "Observed a regression.") ++
    "\n\nBenchmark: " ++ current.benchmarkType ++
    (if current.plannerVersion = "" then "" else " (planner " ++ current.plannerVersion ++ ")") ++
    (if 0 < current.pullNumber then
      "\nPull request: " ++ repository ++ "/pull/" ++ toString current.pullNumber.toInt else "") ++
    "\nComparing " ++ commitLink repository current ++ " with " ++ commitLink repository target ++
    "\n\n" ++ (if summary = "" then "No regression observed." else summary)

end BenchQueue.Comparison
