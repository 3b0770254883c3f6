import BenchQueue.Json.Record
import BenchQueue.Time.Duration
/-!
# Spacing of attempts

A retry policy says how long to wait before each attempt of a run: nothing before the first, then an
interval that grows by a factor up to a limit, randomly lengthened or shortened by a share of
itself. The values of a policy are not restricted, so a delay may fail to exist; `delay?` is then
`none`.
-/

namespace BenchQueue

/-- How long to wait before each attempt. A limit of zero is no limit. -/
structure RetryPolicy where
  initialInterval : Duration := .zero
  maxInterval : Duration := .zero
  coefficient : Float := 1.0
  jitter : Float := 0.0

namespace RetryPolicy

instance : Inhabited RetryPolicy := ⟨{}⟩

/-- No wait at all. -/
def immediate : RetryPolicy := {}

/-- The same wait before every retry. -/
def fixed (interval : Duration) : RetryPolicy :=
  { initialInterval := interval, maxInterval := interval }

/-- Waits that double up to ten times the first one and vary by a tenth. There is none when ten
times the first wait is no duration. -/
def exponential? (initial : Duration) : Option RetryPolicy :=
  (initial.times? 10).map fun limit =>
    { initialInterval := initial, maxInterval := limit, coefficient := 2.0, jitter := 0.1 }

/-- A share forced between zero and one. A value that is no number stays as it is. -/
def clampShare (x : Float) : Float :=
  if x < 0.0 then 0.0 else if 1.0 < x then 1.0 else x

/-- The policy with another random share, forced between zero and one. -/
def withJitter (p : RetryPolicy) (jitter : Float) : RetryPolicy :=
  { p with jitter := clampShare jitter }

/-- A power by repeated squaring, in the order of the bits of the exponent from the lowest. -/
def power (base : Float) (exponent : Nat) : Float :=
  go (exponent + 1) base exponent 1.0
where
  go : Nat → Float → Nat → Float → Float
    | 0, _, _, product => product
    | fuel + 1, square, rest, product =>
      let product := if rest % 2 = 1 then product * square else product
      if rest / 2 = 0 then product else go fuel (square * square) (rest / 2) product

/-- A power with any exponent; a negative one gives the reciprocal. -/
def powerInt (base : Float) (exponent : Int) : Float :=
  if exponent < 0 then 1.0 / power base exponent.natAbs else power base exponent.natAbs

/-- The smaller of two numbers; a value that is no number gives way to the other. -/
def least (a b : Float) : Float :=
  if a.isNaN then b else if b < a then b else a

/-- The exponent of the factor before an attempt: the number of the retry as a word of 32 bits with
a sign, less one. There is none for the least such word. -/
def exponent? (attempt : UInt32) : Option Int :=
  let retry := (attempt - 1).toInt32.toInt
  if retry = Int32.minValue.toInt then none else some (retry - 1)

/-- The seconds before an attempt, without the random part. -/
def baseSeconds (p : RetryPolicy) (exponent : Int) : Float :=
  let grown := p.initialInterval.toFloat * powerInt p.coefficient exponent
  if p.maxInterval.isZero then grown else least grown p.maxInterval.toFloat

/-- Adds a random offset between `-share · seconds` and `share · seconds`, which `draw` picks for a
given bound. There is none when that range is empty or its width is not finite. -/
def jittered? (draw : Float → Float) (jitter seconds : Float) : Option Float :=
  if 0.0 < jitter then
    let bound := seconds * jitter
    if 0.0 < bound ∧ (bound - -bound).isFinite then
      let moved := seconds + draw bound
      some (if moved < 0.0 then 0.0 else moved)
    else none
  else some seconds

/-- The wait before an attempt, numbered from one. -/
def delay? (p : RetryPolicy) (draw : Float → Float) (attempt : UInt32) : Option Duration :=
  if attempt ≤ 1 || p.initialInterval.isZero then some .zero
  else do
    let exponent ← exponent? attempt
    let seconds ← jittered? draw p.jitter (p.baseSeconds exponent)
    Duration.ofFloat? seconds

/-- The wait before an attempt with the random part left out. -/
def steadyDelay? (p : RetryPolicy) (attempt : UInt32) : Option Duration :=
  { p with jitter := 0.0 }.delay? (fun _ => 0.0) attempt

/-- A duration as its whole milliseconds in 64 bits. -/
def durationToJson (d : Duration) : Json := .int d.millis64.toNat

/-- Reads a duration from milliseconds. -/
def durationOfJson? (json : Json) : Option Duration :=
  json.uint64?.map Duration.ofMillis

/-- A policy as an object. -/
def toJson (p : RetryPolicy) : Json :=
  .obj [("initial_interval", durationToJson p.initialInterval),
    ("max_interval", durationToJson p.maxInterval),
    ("backoff_coefficient", .float p.coefficient), ("jitter", .float p.jitter)]

/-- Reads a policy; every field has the value of the immediate policy as its default. -/
def ofJson? (json : Json) : Option RetryPolicy := do
  let r ← json.record? ["initial_interval", "max_interval", "backoff_coefficient", "jitter"]
  let initialInterval ← r.defaulted "initial_interval" .zero durationOfJson?
  let maxInterval ← r.defaulted "max_interval" .zero durationOfJson?
  let coefficient ← r.defaulted "backoff_coefficient" 1.0 Json.float?
  let jitter ← r.defaulted "jitter" 0.0 Json.float?
  pure { initialInterval, maxInterval, coefficient, jitter }

end RetryPolicy

end BenchQueue
