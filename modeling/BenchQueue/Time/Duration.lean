import BenchQueue.Number.Text
/-!
# Durations

A length of time in whole nanoseconds, below `2 ^ 64` seconds. Configuration files and messages
count milliseconds in 64 bits, so a longer duration is encoded by the low 64 bits of its count
(`Duration.millis64`); `millis64_ofMillis` says that nothing is lost on the way there and back from
a count of milliseconds.
-/

namespace BenchQueue

/-- The nanoseconds in a second. -/
abbrev nanosPerSecond : Nat := 1000000000

/-- The nanoseconds in a millisecond. -/
abbrev nanosPerMilli : Nat := 1000000

/-- A length of time in nanoseconds, shorter than `2 ^ 64` seconds. -/
structure Duration where
  nanos : Nat
  nanos_lt : nanos < UInt64.size * nanosPerSecond
  deriving DecidableEq, Repr

namespace Duration

/-- Durations are equal if they have the same number of nanoseconds. -/
@[ext] theorem ext {a b : Duration} (h : a.nanos = b.nanos) : a = b := by
  cases a; cases b; simpa using h

/-- The empty duration. -/
def zero : Duration := ⟨0, by decide⟩

instance : Inhabited Duration := ⟨zero⟩

/-- The duration of that many nanoseconds, if it is short enough. -/
def ofNanos? (nanos : Nat) : Option Duration :=
  if h : nanos < UInt64.size * nanosPerSecond then some ⟨nanos, h⟩ else none

/-- Whole seconds. -/
def ofSeconds (seconds : UInt64) : Duration :=
  ⟨seconds.toNat * nanosPerSecond, by
    have := seconds.toNat_lt_size
    simp only [nanosPerSecond]
    omega⟩

/-- Whole milliseconds. -/
def ofMillis (millis : UInt64) : Duration :=
  ⟨millis.toNat * nanosPerMilli, by
    have := millis.toNat_lt_size; simp only [nanosPerMilli, nanosPerSecond]; omega⟩

/-- Whether the duration is empty. -/
def isZero (d : Duration) : Bool := d.nanos == 0

/-- The whole seconds of a duration. -/
def seconds (d : Duration) : Nat := d.nanos / nanosPerSecond

/-- The nanoseconds beyond the whole seconds. -/
def subsecond (d : Duration) : Nat := d.nanos % nanosPerSecond

/-- The whole milliseconds of a duration. -/
def millis (d : Duration) : Nat := d.nanos / nanosPerMilli

/-- The low 64 bits of the count of whole milliseconds. -/
def millis64 (d : Duration) : UInt64 := UInt64.ofNat d.millis

/-- A duration of some milliseconds has this number of milliseconds. -/
theorem millis_ofMillis (n : UInt64) : (ofMillis n).millis = n.toNat := by
  simp [ofMillis, millis]

/-- A number of milliseconds is read back from its duration in 64 bits. -/
theorem millis64_ofMillis (n : UInt64) : (ofMillis n).millis64 = n := by
  simp [millis64, millis_ofMillis]

/-- The longer of two durations. -/
def max (a b : Duration) : Duration := if a.nanos ≤ b.nanos then b else a

/-- `n` times a duration, if that is short enough. -/
def times? (d : Duration) (n : Nat) : Option Duration := ofNanos? (d.nanos * n)

/-- The seconds of a duration as a double: the whole seconds, rounded, plus the rest over `10 ^ 9`.
-/
def toFloat (d : Duration) : Float :=
  (UInt64.ofNat d.seconds).toFloat + (UInt64.ofNat d.subsecond).toFloat / 1000000000.0

/-- The duration of a double of seconds, to the nearest nanosecond and a tie to the even one.
A negative number, one that is not finite and one of `2 ^ 64` seconds or more have none. -/
def ofFloat? (x : Float) : Option Duration :=
  match Binary64.ofFloat x with
  | .nan => none
  | .infinite _ => none
  | .finite negative significand exponent =>
    if negative && significand ≠ 0 then none
    else
      let (num, den) := Binary64.ratio significand exponent
      ofNanos? (roundHalfEven (num * nanosPerSecond) den)

/-- Seconds, a point and nine digits of nanoseconds. -/
def decimalText (d : Duration) : String :=
  FloatText.withPoint d.nanos 9

/-- A count of units with the digits of its fraction that are not trailing zeros. -/
private def unitText (whole fraction places : Nat) : String :=
  let digits := (FloatText.padded places fraction).toList.reverse.dropWhile (· == '0')
  toString whole ++
    if digits.isEmpty then "" else "." ++ String.ofList digits.reverse

/-- The text of a duration in the largest of the units s, ms, µs and ns that it reaches. -/
def text (d : Duration) : String :=
  if nanosPerSecond ≤ d.nanos then unitText d.seconds d.subsecond 9 ++ "s"
  else if nanosPerMilli ≤ d.nanos then
    unitText (d.nanos / nanosPerMilli) (d.nanos % nanosPerMilli) 6 ++ "ms"
  else if 1000 ≤ d.nanos then unitText (d.nanos / 1000) (d.nanos % 1000) 3 ++ "µs"
  else toString d.nanos ++ "ns"

end Duration

end BenchQueue
