import BenchQueue.Time.Duration
/-!
# Instants of a clock

An instant of a clock that never goes back, in nanoseconds from its start. The clock counts seconds
in 63 bits, so an instant that lies too far ahead does not exist.
-/

namespace BenchQueue

/-- An instant in nanoseconds from the start of the clock. -/
structure Instant where
  nanos : Nat
  deriving DecidableEq, Repr, Inhabited

namespace Instant

/-- The start of the clock. -/
def start : Instant := ⟨0⟩

/-- The instant a duration later, if it exists. -/
def after? (t : Instant) (d : Duration) : Option Instant :=
  if t.nanos + d.nanos < UInt64.size / 2 * nanosPerSecond then some ⟨t.nanos + d.nanos⟩ else none

/-- An instant after a duration is later by the duration, and the clock can show it. -/
theorem nanos_of_after? {t u : Instant} {d : Duration} (h : t.after? d = some u) :
    u.nanos = t.nanos + d.nanos ∧ u.nanos < UInt64.size / 2 * nanosPerSecond := by
  unfold after? at h
  split at h
  case isTrue hlt =>
    obtain rfl := Option.some.inj h
    exact ⟨rfl, hlt⟩
  case isFalse => cases h

/-- An instant after a duration is missing only if it lies beyond what the clock can show. -/
theorem le_of_after?_eq_none {t : Instant} {d : Duration} (h : t.after? d = none) :
    UInt64.size / 2 * nanosPerSecond ≤ t.nanos + d.nanos := by
  unfold after? at h
  split at h
  case isTrue => cases h
  case isFalse hge => exact Nat.le_of_not_lt hge

/-- Whether an instant has come. -/
def reached (t now : Instant) : Bool := t.nanos ≤ now.nanos

/-- The whole milliseconds from the start of the clock. -/
def millis (t : Instant) : Nat := t.nanos / nanosPerMilli

/-- The first instant that is not before and lies on a whole millisecond. -/
def ceilMilli (t : Instant) : Instant :=
  ⟨(t.nanos + (nanosPerMilli - 1)) / nanosPerMilli * nanosPerMilli⟩

/-- Rounding up to a whole millisecond does not go back in time. -/
theorem le_ceilMilli (t : Instant) : t.nanos ≤ t.ceilMilli.nanos := by
  simp only [ceilMilli, nanosPerMilli]
  omega

end Instant

end BenchQueue
