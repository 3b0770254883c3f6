import BenchQueue.Retry
/-!
# Settings of a scheduler

How many runs may execute at once, how often a new one is admitted, how failed attempts are
repeated, and how long running ones may take once the scheduler is told to stop.
-/

namespace BenchQueue.Scheduling

/-- The number of repeated attempts of a request that does not set one. -/
def defaultRetries : UInt32 := 2

/-- The shortest time between two admissions. -/
def minDispatchInterval : Duration := .ofMillis 1

/-- The time that running elements get to finish once the scheduler is told to stop. -/
def defaultShutdownGrace : Duration := .ofSeconds 60

/-- The settings of a scheduler. -/
structure Config where
  maxConcurrentJobs : UInt64 := 1
  dispatchInterval : Duration := .ofSeconds 1
  defaultRetries : UInt32 := Scheduling.defaultRetries
  retryPolicy : RetryPolicy := .immediate
  shutdownGrace : Duration := defaultShutdownGrace

namespace Config

instance : Inhabited Config := ⟨{}⟩

/-- Sets the number of runs that may execute at once, at least one. -/
def withMaxConcurrentJobs (c : Config) (n : UInt64) : Config :=
  { c with maxConcurrentJobs := if n = 0 then 1 else n }

/-- Sets the time between two admissions, at least `minDispatchInterval`. -/
def withDispatchInterval (c : Config) (interval : Duration) : Config :=
  { c with dispatchInterval := interval.max minDispatchInterval }

/-- Raises the settings that have a least value to it. -/
def normalized (c : Config) : Config :=
  (c.withDispatchInterval c.dispatchInterval).withMaxConcurrentJobs c.maxConcurrentJobs

/-- A normalized configuration allows for at least one execution at a time. -/
theorem one_le_normalized_maxConcurrentJobs (c : Config) :
    1 ≤ c.normalized.maxConcurrentJobs.toNat := by
  simp only [normalized, withDispatchInterval, withMaxConcurrentJobs]
  split
  · decide
  · rename_i h
    have : c.maxConcurrentJobs.toNat ≠ 0 := fun hz => h (UInt64.toNat_inj.mp (by simpa using hz))
    omega

/-- The settings as an object. -/
def toJson (c : Config) : Json :=
  .obj [("max_concurrent_jobs", .int c.maxConcurrentJobs.toNat),
    ("dispatch_interval", RetryPolicy.durationToJson c.dispatchInterval),
    ("default_retries", .int c.defaultRetries.toNat), ("retry_policy", c.retryPolicy.toJson),
    ("shutdown_grace", RetryPolicy.durationToJson c.shutdownGrace)]

/-- Reads settings; the retry policy and the grace period may be left out. -/
def ofJson? (json : Json) : Option Config := do
  let r ← json.record? ["max_concurrent_jobs", "dispatch_interval", "default_retries",
    "retry_policy", "shutdown_grace"]
  let maxConcurrentJobs ← r.required "max_concurrent_jobs" Json.uint64?
  let dispatchInterval ← r.required "dispatch_interval" RetryPolicy.durationOfJson?
  let defaultRetries ← r.required "default_retries" Json.uint32?
  let retryPolicy ← r.defaulted "retry_policy" .immediate RetryPolicy.ofJson?
  let shutdownGrace ← r.defaulted "shutdown_grace" defaultShutdownGrace RetryPolicy.durationOfJson?
  pure { maxConcurrentJobs, dispatchInterval, defaultRetries, retryPolicy, shutdownGrace }

end Config

end BenchQueue.Scheduling
