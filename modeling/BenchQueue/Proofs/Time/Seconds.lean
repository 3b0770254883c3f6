import BenchQueue.Time.Duration
import BenchQueue.Proofs.Number.Arithmetic
/-!
# Durations as doubles of seconds

The double of a duration is at most the next whole second (`Duration.counts_toFloat`), and the
duration of a double is the nearest number of nanoseconds to its units (`Duration.ofFloat?_eq`).
-/

namespace BenchQueue

namespace Duration

variable (d : Duration)

/-- The fraction of a second of a duration is a double between nothing and one. -/
theorem counts_subsecond :
    ∃ w : Nat, Counts ((UInt64.ofNat d.subsecond).toFloat / 1000000000.0) w ∧
      w ≤ 1 * unitsInOne ∧ (0 < d.subsecond → 0 < w) := by
  have hsmall : d.subsecond < 1000000000 := Nat.mod_lt _ (by decide)
  have hcount : (UInt64.ofNat d.subsecond).toNat = d.subsecond := by
    rw [UInt64.toNat_ofNat']
    omega
  have hnum := counts_toFloat_of_lt (n := UInt64.ofNat d.subsecond) (by omega)
  have hden : Counts 1000000000.0 (1000000000 * unitsInOne : Nat) :=
    counts_toFloat_of_lt (n := 1000000000) (by decide)
  have hpos : 0 < 1000000000 * unitsInOne := Nat.mul_pos (by decide) unitsInOne_pos
  have hpart := hnum.div hden (Nat.cast_pos.2 hpos)
  rw [hcount] at hpart
  have hle : significant (d.subsecond * unitsInOne * unitsInOne) (1000000000 * unitsInOne) ≤
      1 * unitsInOne := by
    refine significant_le_whole (by decide) hpos ?_
    calc d.subsecond * unitsInOne * unitsInOne
      _ ≤ 1000000000 * unitsInOne * unitsInOne :=
        Nat.mul_le_mul_right _ (Nat.mul_le_mul_right _ hsmall.le)
      _ = 1 * unitsInOne * (1000000000 * unitsInOne) := by ring
  refine ⟨_, ?_, hle, fun hpositive => significant_pos hpos ?_⟩
  · rw [← capped_of_lt (hle.trans_lt (lt_unitLimit (by decide)))]
    exact hpart
  · have hmany : 1000000000 ≤ unitsInOne := by
      have : 30 ≤ leastPlace := by simp only [leastPlace]; decide
      exact Nat.le_trans (by decide) (Nat.pow_le_pow_right Nat.two_pos this)
    exact Nat.mul_le_mul_right _ (hmany.trans (Nat.le_mul_of_pos_left _ hpositive))

/-- A duration of not too many seconds is rounded to at most the next whole second. -/
theorem counts_toFloat (hsmall : d.seconds + 1 < 2 ^ 53) :
    ∃ v : Nat, Counts d.toFloat v ∧ v ≤ (d.seconds + 1) * unitsInOne ∧ (0 < d.nanos → 0 < v) := by
  obtain ⟨w, hfraction, hle, hpos⟩ := d.counts_subsecond
  have hcount : (UInt64.ofNat d.seconds).toNat = d.seconds := by
    rw [UInt64.toNat_ofNat']
    omega
  have hwhole := counts_toFloat_of_lt (n := UInt64.ofNat d.seconds) (by omega)
  rw [hcount] at hwhole
  have hsum := hwhole.add hfraction
  have hbound : significant (d.seconds * unitsInOne + w) 1 ≤ (d.seconds + 1) * unitsInOne :=
    significant_le_whole hsmall Nat.one_pos (by linarith)
  refine ⟨_, ?_, hbound, fun hpositive => significant_pos Nat.one_pos ?_⟩
  · rw [← capped_of_lt (hbound.trans_lt (lt_unitLimit hsmall))]
    exact hsum
  · -- a duration that is not empty has seconds or a fraction of one
    obtain hzero | hpos' := Nat.eq_zero_or_pos d.seconds
    · have : 0 < d.subsecond := by
        simp only [seconds, subsecond, nanosPerSecond] at hzero ⊢
        omega
      have := hpos this
      omega
    · have := Nat.mul_pos hpos' unitsInOne_pos
      omega

/-- The nanoseconds of a double may be computed from its units in place of its ratio. -/
theorem ofNanos?_ratio (m k : Nat) :
    ofNanos? (roundHalfEven ((Binary64.ratio m (k - leastPlace)).1 * nanosPerSecond)
      (Binary64.ratio m (k - leastPlace)).2) =
    ofNanos? (roundHalfEven (m * 2 ^ k * nanosPerSecond) unitsInOne) := by
  obtain ⟨hpos, hunits⟩ := Binary64.ratio_units m k
  rw [roundHalfEven_congr hpos unitsInOne_pos]
  rw [Nat.mul_right_comm, hunits]
  ring

/-- A finite double that is not below zero is a duration if its nanoseconds, rounded half to even,
are. -/
theorem ofFloat?_finite {x : Float} {negative : Bool} {significand : Nat} {exponent : Int}
    (hform : Binary64.ofFloat x = .finite negative significand exponent)
    (h : negative = true → significand = 0) :
    ofFloat? x = ofNanos? (roundHalfEven ((Binary64.ratio significand exponent).1 * nanosPerSecond)
      (Binary64.ratio significand exponent).2) := by
  simp only [ofFloat?, hform]
  rw [if_neg (by simpa using h)]

/-- The duration of a double is the nearest number of nanoseconds. -/
theorem ofFloat?_eq {x : Float} {v : Nat} (hx : Counts x v) :
    ofFloat? x = ofNanos? (roundHalfEven (v * nanosPerSecond) unitsInOne) := by
  have hform : Binary64.ofFloat x = .ofUnpacked x.toModel.unpack := Binary64.ofBits_eq _
  cases hx with
  | finite hcanonical _ =>
    generalize x.toModel.unpack = u at hcanonical hform
    cases hcanonical with
    | zero s =>
      have hplace : (-1074 : Int) = (0 : Nat) - leastPlace := by
        rw [leastPlace]
        decide
      rw [Binary64.ofUnpacked, hplace] at hform
      rw [ofFloat?_finite hform (fun _ => rfl), ofNanos?_ratio, Nat.zero_mul]
    | @finite m k hpos hsmall hfull =>
      rw [Binary64.ofUnpacked] at hform
      rw [ofFloat?_finite hform fun hnegative => absurd hnegative (by decide), ofNanos?_ratio]

end Duration

end BenchQueue
