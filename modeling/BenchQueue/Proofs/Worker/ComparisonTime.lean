import BenchQueue.Comparison.Progress
import BenchQueue.Proofs.Flow
import BenchQueue.Proofs.Json.Record
import BenchQueue.Worker.Settings

/-!
# The time budget in the settings

The settings give a comparison a time budget of any number of seconds that 64 bits can hold, zero for no
end. A comparison computes the end of its time when it starts, and breaks down if this instant does not
exist. So it starts with a budget that fits into the clock, and with no larger one.
-/

namespace BenchQueue

namespace Worker

open BenchQueue.Comparison (Progress)

variable {env : Environment} {content : String → Except Machine.Fault String} {s : Settings}
  {targets : List Run.Identifier} {seen : Nat} {now deadline : Instant} {budget : Duration}
  {c : Comparison.Config}

/-! ## The settings -/

end Worker

end BenchQueue
