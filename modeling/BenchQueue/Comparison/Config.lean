import BenchQueue.Retry
/-!
# Settings of comparisons
-/

namespace BenchQueue.Comparison

/-- The repository that messages link to unless another one is set. -/
def defaultRepositoryUrl : String := "https://github.com/vitessio/vitess"

/-- The settings of comparisons: the time between two rounds of lookups, the time after which
targets are given up, if there is one, and the repository that messages link to. -/
structure Config where
  pollInterval : Duration := .ofSeconds 1
  timeout : Option Duration := some (.ofSeconds 86400)
  repositoryUrl : String := defaultRepositoryUrl
  deriving Repr

namespace Config

instance : Inhabited Config := ⟨{}⟩

/-- A repository address without the slashes at its end. -/
def trimSlashes (url : String) : String :=
  String.ofList (url.toList.reverse.dropWhile (· == '/')).reverse

/-- Sets the repository, without the slashes at the end of its address. -/
def withRepositoryUrl (c : Config) (url : String) : Config :=
  { c with repositoryUrl := trimSlashes url }

/-- The settings as an object. -/
def toJson (c : Config) : Json :=
  .obj [("poll_interval", RetryPolicy.durationToJson c.pollInterval),
    ("timeout", Json.ofOption RetryPolicy.durationToJson c.timeout),
    ("repository_url", .str c.repositoryUrl)]

/-- Reads settings; without a timeout targets are waited for forever. -/
def ofJson? (json : Json) : Option Config := do
  let r ← json.record? ["poll_interval", "timeout", "repository_url"]
  let pollInterval ← r.required "poll_interval" RetryPolicy.durationOfJson?
  let timeout ← r.optional "timeout" RetryPolicy.durationOfJson?
  let repositoryUrl ← r.required "repository_url" Json.str?
  pure { pollInterval, timeout, repositoryUrl }

end Config

end BenchQueue.Comparison
