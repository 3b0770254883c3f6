import BenchQueue.Comparison.Config
import BenchQueue.Proofs.Json.Canonical
import BenchQueue.Scheduling.Config

/-!
# What is left of an encoded configuration

The retry policy, the scheduler's settings and those of comparisons have an encoding in which a duration
is a count of whole milliseconds in 64 bits. As a text, the encoding is in canonical form, in which a
number that is not finite is a null. The encoding is read back with all fields as they were, except
that a duration loses the fraction of a millisecond. A duration whose count needs more than 64 bits also
loses everything above these, and is read back as a shorter one.
-/

namespace BenchQueue

/-! ## Durations -/

namespace Duration

/-- The duration without the fraction of a millisecond. -/
def wholeMillis (d : Duration) : Duration :=
  ⟨d.millis * nanosPerMilli, Nat.lt_of_le_of_lt (Nat.div_mul_le_self _ _) d.nanos_lt⟩

/-- The duration that is read back from an encoding. -/
def encoded (d : Duration) : Duration := ofMillis d.millis64

variable {d : Duration}

/-- What is read back has the whole milliseconds of a duration, as far as 64 bits hold them. -/
theorem nanos_encoded (d : Duration) :
    d.encoded.nanos = d.millis % UInt64.size * nanosPerMilli := by
  simp [encoded, ofMillis, millis64]

/-- A duration is encoded without loss but for the fraction of a millisecond exactly if 64 bits can count
its milliseconds. -/
theorem encoded_eq_wholeMillis_iff : d.encoded = d.wholeMillis ↔ d.millis < UInt64.size := by
  have hwhole : d.wholeMillis.nanos = d.millis * nanosPerMilli := rfl
  constructor
  · intro hsame
    have hnanos := congrArg nanos hsame
    rw [nanos_encoded, hwhole] at hnanos
    rw [← Nat.eq_of_mul_eq_mul_right (by decide) hnanos]
    exact Nat.mod_lt _ (by decide)
  · intro hsmall
    apply ext
    rw [nanos_encoded, hwhole, Nat.mod_eq_of_lt hsmall]

/-- Otherwise it becomes shorter by more than that. -/
theorem lt_encoded_add_iff :
    d.nanos < d.encoded.nanos + nanosPerMilli ↔ d.millis < UInt64.size := by
  have hmillis : d.millis = d.nanos / nanosPerMilli := rfl
  have hless : d.millis % UInt64.size < UInt64.size := Nat.mod_lt _ (by decide)
  have hle : d.millis % UInt64.size ≤ d.millis := Nat.mod_le _ _
  have hfits : d.millis % UInt64.size = d.millis ↔ d.millis < UInt64.size :=
    ⟨fun hsame => hsame ▸ hless, Nat.mod_eq_of_lt⟩
  rw [nanos_encoded, ← hfits]
  simp only [nanosPerMilli] at hmillis ⊢
  omega

end Duration

/-! ## Fields -/

namespace Json

/-- Every number of 64 bits is read back. -/
theorem uint64?_toNat (n : UInt64) : uint64? (.int n.toNat) = some n := by
  have hsmall : 0 ≤ (n.toNat : Int) ∧ (n.toNat : Int) < UInt64.size :=
    ⟨Int.natCast_nonneg _, Int.ofNat_lt.mpr n.toNat_lt_size⟩
  rw [uint64?, if_pos hsmall, Int.toNat_natCast, UInt64.ofNat_toNat]

/-- Every number of 32 bits is read back. -/
theorem uint32?_toNat (n : UInt32) : uint32? (.int n.toNat) = some n := by
  have hsmall : 0 ≤ (n.toNat : Int) ∧ (n.toNat : Int) < UInt32.size :=
    ⟨Int.natCast_nonneg _, Int.ofNat_lt.mpr n.toNat_lt_size⟩
  rw [uint32?, if_pos hsmall, Int.toNat_natCast, UInt32.ofNat_toNat]

end Json

/-- A duration is read back from its encoding in milliseconds of 64 bits. -/
theorem RetryPolicy.durationOfJson?_durationToJson (d : Duration) :
    durationOfJson? (durationToJson d).canonical = some d.encoded := by
  rw [durationToJson, Json.canonical, durationOfJson?, Json.uint64?_toNat]
  rfl

/-! ## Configurations -/

namespace RetryPolicy

/-- The numbers of a policy other than durations are finite. -/
def Finite (p : RetryPolicy) : Prop := p.coefficient.isFinite = true ∧ p.jitter.isFinite = true

/-- The policy with its durations changed. -/
def mapDurations (f : Duration → Duration) (p : RetryPolicy) : RetryPolicy :=
  { p with initialInterval := f p.initialInterval, maxInterval := f p.maxInterval }

/-- A policy whose numbers are finite is read back, up to what its durations lose. -/
theorem ofJson?_canonical {p : RetryPolicy} (h : p.Finite) :
    ofJson? p.toJson.canonical = some (p.mapDurations Duration.encoded) := by
  unfold ofJson? toJson
  refine Json.record?_canonical_bind (by simp [Members.names]) fun r hfind => ?_
  simp only [List.forall_mem_cons, Members.find?, reduceIte, String.reduceEq, Option.map_some] at hfind
  obtain ⟨hinitial, hmax, hcoefficient, hjitter, -⟩ := hfind
  simp only [Json.Record.defaulted_of_find? hinitial, Json.Record.defaulted_of_find? hmax,
    Json.Record.defaulted_of_find? hcoefficient, Json.Record.defaulted_of_find? hjitter,
    durationOfJson?_durationToJson, Json.canonical_float h.1, Json.canonical_float h.2, Json.float?]
  rfl

end RetryPolicy

namespace Scheduling.Config

/-- The settings with their durations changed, those of the retry policy included. -/
def mapDurations (f : Duration → Duration) (c : Config) : Config :=
  { c with
    dispatchInterval := f c.dispatchInterval
    retryPolicy := c.retryPolicy.mapDurations f
    shutdownGrace := f c.shutdownGrace }

/-- The settings of a scheduler are read back, up to what their durations lose. -/
theorem ofJson?_canonical {c : Config} (h : c.retryPolicy.Finite) :
    ofJson? c.toJson.canonical = some (c.mapDurations Duration.encoded) := by
  unfold ofJson? toJson
  refine Json.record?_canonical_bind (by simp [Members.names]) fun r hfind => ?_
  simp only [List.forall_mem_cons, Members.find?, reduceIte, String.reduceEq, Option.map_some] at hfind
  obtain ⟨hjobs, hdispatch, hretries, hpolicy, hgrace, -⟩ := hfind
  simp only [Json.Record.required_of_find? hjobs, Json.Record.required_of_find? hdispatch,
    Json.Record.required_of_find? hretries, Json.Record.defaulted_of_find? hpolicy,
    Json.Record.defaulted_of_find? hgrace, RetryPolicy.durationOfJson?_durationToJson,
    RetryPolicy.ofJson?_canonical h, Json.canonical, Json.uint64?_toNat, Json.uint32?_toNat]
  rfl

end Scheduling.Config

namespace Comparison.Config

/-- The settings with their durations changed. -/
def mapDurations (f : Duration → Duration) (c : Config) : Config :=
  { c with pollInterval := f c.pollInterval, timeout := c.timeout.map f }

/-- A timeout is encoded as a duration or as null. -/
theorem nullable_durationOfJson? (timeout : Option Duration) :
    Json.nullable RetryPolicy.durationOfJson? (Json.ofOption RetryPolicy.durationToJson timeout).canonical =
      some (timeout.map Duration.encoded) := by
  cases timeout with
  | none => rfl
  | some d =>
    have hd := RetryPolicy.durationOfJson?_durationToJson d
    rw [RetryPolicy.durationToJson, Json.canonical] at hd
    rw [Json.ofOption, RetryPolicy.durationToJson, Json.canonical, Json.nullable, hd]
    · rfl
    · nofun

/-- The settings of comparisons are read back, up to what their durations lose. -/
theorem ofJson?_canonical (c : Config) :
    ofJson? c.toJson.canonical = some (c.mapDurations Duration.encoded) := by
  unfold ofJson? toJson
  refine Json.record?_canonical_bind (by simp [Members.names]) fun r hfind => ?_
  simp only [List.forall_mem_cons, Members.find?, reduceIte, String.reduceEq, Option.map_some] at hfind
  obtain ⟨hpoll, htimeout, hrepository, -⟩ := hfind
  simp only [Json.Record.required_of_find? hpoll, Json.Record.required_of_find? hrepository,
    Json.Record.optional, Json.Record.defaulted_of_find? htimeout, nullable_durationOfJson?,
    RetryPolicy.durationOfJson?_durationToJson, Json.canonical, Json.str?]
  rfl

end Comparison.Config

/-! ## All of them -/

/-- A configuration that has an encoding. -/
inductive Configuration
  | retryPolicy (p : RetryPolicy)
  | scheduler (c : Scheduling.Config)
  | comparison (c : Comparison.Config)

namespace Configuration

/-- The numbers other than durations are finite. -/
def Finite : Configuration → Prop
  | retryPolicy p => p.Finite
  | scheduler c => c.retryPolicy.Finite
  | comparison _ => True

/-- The encoding of a configuration. -/
def encode : Configuration → Json
  | retryPolicy p => p.toJson
  | scheduler c => c.toJson
  | comparison c => c.toJson

/-- What is read from an encoding as a configuration of the same kind. -/
def decodeAs : Configuration → Json → Option Configuration
  | retryPolicy _, json => (RetryPolicy.ofJson? json).map retryPolicy
  | scheduler _, json => (Scheduling.Config.ofJson? json).map scheduler
  | comparison _, json => (Comparison.Config.ofJson? json).map comparison

/-- The durations in a configuration. -/
def durations : Configuration → List Duration
  | retryPolicy p => [p.initialInterval, p.maxInterval]
  | scheduler c =>
    [c.dispatchInterval, c.retryPolicy.initialInterval, c.retryPolicy.maxInterval, c.shutdownGrace]
  | comparison c => c.pollInterval :: c.timeout.toList

/-- A configuration with its durations changed. -/
def mapDurations (f : Duration → Duration) : Configuration → Configuration
  | retryPolicy p => retryPolicy (p.mapDurations f)
  | scheduler c => scheduler (c.mapDurations f)
  | comparison c => comparison (c.mapDurations f)

variable {c : Configuration} {f g : Duration → Duration}

/-- All of the durations are changed, and nothing else is. -/
theorem mapDurations_eq_iff (c : Configuration) :
    c.mapDurations f = c.mapDurations g ↔ ∀ d ∈ c.durations, f d = g d := by
  cases c with
  | retryPolicy p => simp [mapDurations, RetryPolicy.mapDurations, durations]
  | scheduler c =>
    simp [mapDurations, Scheduling.Config.mapDurations, RetryPolicy.mapDurations, durations, and_assoc]
  | comparison c =>
    cases htimeout : c.timeout <;>
      simp [mapDurations, Comparison.Config.mapDurations, durations, htimeout]

/-- Every configuration whose numbers are finite is read back from its encoding, up to what its
durations lose. -/
theorem decodeAs_encode (h : c.Finite) :
    c.decodeAs c.encode.canonical = some (c.mapDurations Duration.encoded) := by
  cases c with
  | retryPolicy p => rw [encode, decodeAs, RetryPolicy.ofJson?_canonical h]; rfl
  | scheduler c => rw [encode, decodeAs, Scheduling.Config.ofJson?_canonical h]; rfl
  | comparison c => rw [encode, decodeAs, Comparison.Config.ofJson?_canonical]; rfl

/-- A configuration with finite numbers is read back from its encoding with every duration as the low 64
bits of its whole milliseconds. These are the whole milliseconds of all its durations exactly if none
needs more than 64 bits, and any duration that does becomes shorter by more than a millisecond. -/
theorem read_back_whole_iff (h : c.Finite) :
    c.decodeAs c.encode.canonical = some (c.mapDurations Duration.encoded) ∧
    (c.decodeAs c.encode.canonical = some (c.mapDurations Duration.wholeMillis) ↔
      ∀ d ∈ c.durations, d.millis < UInt64.size) ∧
    ∀ d ∈ c.durations, d.nanos < d.encoded.nanos + nanosPerMilli ↔ d.millis < UInt64.size := by
  refine ⟨decodeAs_encode h, ?_, fun d _ => Duration.lt_encoded_add_iff⟩
  rw [decodeAs_encode h, Option.some_inj, mapDurations_eq_iff]
  exact forall₂_congr fun d _ => Duration.encoded_eq_wholeMillis_iff

/-- A policy that waits a millisecond and a half. -/
def briefPolicy : RetryPolicy :=
  { initialInterval := ⟨1500000, by decide⟩, maxInterval := .zero, coefficient := 2.0, jitter := 0.1 }

/-- It is read back with one millisecond. -/
theorem read_back_whole_iff_brief :
    (retryPolicy briefPolicy).Finite ∧
      (retryPolicy briefPolicy).decodeAs (retryPolicy briefPolicy).encode.canonical =
        some (retryPolicy { briefPolicy with initialInterval := .ofMillis 1 }) := by
  have hfinite : (retryPolicy briefPolicy).Finite := ⟨by decide, by decide⟩
  have hwhole : briefPolicy.initialInterval.wholeMillis = .ofMillis 1 := by decide
  have hzero : briefPolicy.maxInterval.wholeMillis = .zero := by decide
  refine ⟨hfinite, ((read_back_whole_iff hfinite).2.1.mpr (by decide)).trans ?_⟩
  rw [mapDurations, RetryPolicy.mapDurations, hwhole, hzero]
  rfl

/-- A policy with the shortest wait whose milliseconds need more than 64 bits. -/
def longPolicy : RetryPolicy := .fixed ⟨UInt64.size * nanosPerMilli, by decide⟩

/-- It is read back without any wait. -/
theorem long_wait_lost :
    ¬ ∀ c : Configuration, c.Finite →
      c.decodeAs c.encode.canonical = some (c.mapDurations Duration.wholeMillis) := by
  intro hkept
  have hfinite : (retryPolicy longPolicy).Finite := ⟨by decide, by decide⟩
  have hread := hkept _ hfinite
  rw [decodeAs_encode hfinite, Option.some_inj, mapDurations_eq_iff] at hread
  exact absurd (hread longPolicy.initialInterval List.mem_cons_self) (by decide)

end Configuration

end BenchQueue
