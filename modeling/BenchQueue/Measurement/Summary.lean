import BenchQueue.Members
import BenchQueue.Number.Text
/-!
# Summaries of measurements

A summary lists what got worse between two sets of results by more than a threshold in percent, one
line for each, and is empty when nothing did. A target value of zero has no percentage and is never
worse.
-/

namespace BenchQueue.Measurement

/-- The threshold in percent when none is set. -/
def defaultThreshold : Float := 10.0

/-- The change from a target value to a current one in percent of the target. -/
def percentChange? (current target : Float) : Option Float :=
  if target == 0.0 then none else some ((current - target) / target * 100.0)

/-- The mean time of an operation for each benchmark function, sorted by name. -/
abbrev MicroResults := Members Float

/-- The line of a function that got slower. -/
def microLine (name : String) (before now change : Float) : String :=
  "- `" ++ name ++ "`: " ++ FloatText.fixed 2 before ++ " ns/op -> " ++ FloatText.fixed 2 now ++
    " ns/op (+" ++ FloatText.fixed 1 change ++ "%)"

/-- The line of one function, if both sides have it and it got slower by more than the threshold. -/
def microLine? (target : MicroResults) (threshold : Float) (name : String) (now : Float) :
    Option String := do
  let before ← target.find? name
  let change ← percentChange? now before
  if threshold < change then some (microLine name before now change) else none

/-- The lines of the functions that got slower by more than the threshold, in the order of names. -/
def microSummary (current target : MicroResults) (threshold : Float) : String :=
  "\n".intercalate (current.filterMap fun (name, now) => microLine? target threshold name now)

/-- The means of a macro benchmark. -/
structure MacroSample where
  qps : Float
  latency : Float

/-- The line for fewer queries a second. -/
def qpsLine? (current target : MacroSample) (threshold : Float) : Option String := do
  let change ← percentChange? current.qps target.qps
  if threshold < -change then
    some ("- QPS: " ++ FloatText.fixed 2 target.qps ++ " -> " ++ FloatText.fixed 2 current.qps ++
      " (" ++ FloatText.fixed 1 change ++ "%)")
  else none

/-- The line for a longer latency. -/
def latencyLine? (current target : MacroSample) (threshold : Float) : Option String := do
  let change ← percentChange? current.latency target.latency
  if threshold < change then
    some ("- Latency: " ++ FloatText.fixed 2 target.latency ++ "ms -> " ++
      FloatText.fixed 2 current.latency ++ "ms (+" ++ FloatText.fixed 1 change ++ "%)")
  else none

/-- The lines for throughput and latency, each if it got worse by more than the threshold. -/
def macroSummary (current target : MacroSample) (threshold : Float) : String :=
  "\n".intercalate
    ([qpsLine? current target threshold, latencyLine? current target threshold].filterMap id)

end BenchQueue.Measurement
