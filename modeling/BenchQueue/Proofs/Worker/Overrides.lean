import BenchQueue.Proofs.Text.Numeral
import BenchQueue.Worker.Settings

/-!
# Whole numbers from the environment

Eight settings of a worker are whole numbers, and each of them has its variable. If the variable spells a
number of 64 bits, this number takes the place of the setting, raised to the least value that the setting
may have. The number of retries has only 32 bits, and a larger number is cut to its low ones: this is the
one case in which another number than the one that is spelled is stored.
-/

namespace BenchQueue.Worker

/-- The settings that are whole numbers. -/
inductive Numeric
  | maxConcurrentJobs
  | dispatchInterval
  | executionTimeout
  | runRetries
  | shutdownGrace
  | comparePollInterval
  | compareTimeout
  | cronInterval
  deriving DecidableEq

namespace Numeric

/-- The variable of a setting. -/
def variableName : Numeric → String
  | maxConcurrentJobs => "MAX_CONCURRENT_JOBS"
  | dispatchInterval => "DISPATCH_INTERVAL_MS"
  | executionTimeout => "EXECUTION_TIMEOUT_SECS"
  | runRetries => "RUN_RETRIES"
  | shutdownGrace => "SHUTDOWN_GRACE_SECS"
  | comparePollInterval => "COMPARE_POLL_INTERVAL_MS"
  | compareTimeout => "COMPARE_TIMEOUT_SECS"
  | cronInterval => "CRON_INTERVAL_SECS"

/-- The value of a setting, a time in nanoseconds. -/
def value (s : Settings) : Numeric → ℕ
  | maxConcurrentJobs => s.maxConcurrentJobs.toNat
  | dispatchInterval => s.dispatchInterval.nanos
  | executionTimeout => s.executionTimeout.nanos
  | runRetries => s.runRetries.toNat
  | shutdownGrace => s.shutdownGrace.nanos
  | comparePollInterval => s.comparePollInterval.nanos
  | compareTimeout => s.compareTimeout.nanos
  | cronInterval => s.cronInterval.nanos

/-- What one stands for in the variable of a setting. -/
def unit : Numeric → ℕ
  | maxConcurrentJobs | runRetries => 1
  | dispatchInterval | comparePollInterval => nanosPerMilli
  | executionTimeout | shutdownGrace | compareTimeout | cronInterval => nanosPerSecond

/-- The least number that a setting may have. -/
def least : Numeric → ℕ
  | maxConcurrentJobs | dispatchInterval => 1
  | _ => 0

/-- The numbers that a setting can hold are those below this one. -/
def size : Numeric → ℕ
  | runRetries => UInt32.size
  | _ => UInt64.size

/-- The variable of a setting spells a number. -/
def Spelled (x : Numeric) (env : Environment) (n : ℕ) : Prop :=
  ∃ text, env x.variableName = some text ∧ Text.Spells text n

/-- An environment leaves a setting as it was, or gives it the number that is spelled. -/
def Exact (x : Numeric) (s : Settings) (env : Environment) : Prop :=
  x.value (s.override env) = x.value s ∨
    ∃ n, x.Spelled env n ∧ x.value (s.override env) = max x.least n * x.unit

variable {x : Numeric} {s : Settings} {env env' : Environment} {n m : ℕ} {w : UInt64}

/-! ## What is spelled -/

/-- A variable spells one number at most. -/
theorem Spelled.unique (h : x.Spelled env n) (h' : x.Spelled env m) : n = m := by
  obtain ⟨text, htext, hn⟩ := h
  obtain ⟨other, hother, hm⟩ := h'
  obtain rfl := Option.some.inj (htext.symm.trans hother)
  exact hn.unique hm

/-- A variable is read as the number that it spells. -/
theorem number?_eq_some_iff :
    Settings.number? env x.variableName = some w ↔ x.Spelled env w.toNat := by
  simp only [Settings.number?, Option.bind_eq_some_iff, Text.parseWord?_trim_eq_some_iff, Spelled]

/-- A number that fits into the word is read. -/
theorem Spelled.number?_eq (h : x.Spelled env n) (hn : n < UInt64.size) :
    Settings.number? env x.variableName = some (UInt64.ofNat n) := by
  rw [number?_eq_some_iff, UInt64.toNat_ofNat_of_lt' hn]
  exact h

/-- A variable that spells no number, or one that does not fit, is not read. -/
theorem number?_eq_none (h : ∀ n, x.Spelled env n → UInt64.size ≤ n) :
    Settings.number? env x.variableName = none := by
  rw [Option.eq_none_iff_forall_ne_some]
  intro w hw
  exact absurd (h _ (number?_eq_some_iff.mp hw)) (Nat.not_le.mpr w.toNat_lt_size)

/-! ## What is stored -/

/-- A word that may not be zero is one at least. -/
theorem toNat_atLeastOne (w : UInt64) : (if w = 0 then 1 else w).toNat = max 1 w.toNat := by
  split
  case isTrue hzero => simp [hzero]
  case isFalse hpos =>
    have hne : w.toNat ≠ 0 := fun hzero => hpos (UInt64.toNat_inj.mp hzero)
    omega

/-- The longer of two durations has the greater number of nanoseconds. -/
theorem nanos_max (a b : Duration) : (a.max b).nanos = max a.nanos b.nanos := by
  unfold Duration.max
  split
  all_goals omega

/-- The interval between dispatches is a millisecond at least. -/
theorem nanos_atLeastOne (w : UInt64) :
    ((Duration.ofMillis w).max Scheduling.minDispatchInterval).nanos = max 1 w.toNat * nanosPerMilli := by
  have hleast : Scheduling.minDispatchInterval.nanos = 1 * nanosPerMilli := by decide
  rw [nanos_max, Duration.ofMillis, hleast, Nat.mul_max_mul_right, Nat.max_comm]

/-- A setting takes the number that is read from its variable. -/
theorem value_override (x : Numeric) (s : Settings) (env : Environment) :
    x.value (s.override env) =
      match Settings.number? env x.variableName with
      | some w => max x.least (w.toNat % x.size) * x.unit
      | none => x.value s := by
  have hword (w : UInt64) : w.toNat % UInt64.size = w.toNat := Nat.mod_eq_of_lt w.toNat_lt_size
  cases x <;> simp only [value, Settings.override, variableName, least, size, unit]
  case maxConcurrentJobs =>
    cases Settings.number? env "MAX_CONCURRENT_JOBS" with
    | none => rfl
    | some w => simp only [hword, toNat_atLeastOne, Nat.mul_one]
  case dispatchInterval =>
    cases Settings.number? env "DISPATCH_INTERVAL_MS" with
    | none => rfl
    | some w => simp only [hword, nanos_atLeastOne]
  case runRetries =>
    cases Settings.number? env "RUN_RETRIES" with
    | none => rfl
    | some w => simp
  all_goals
    cases Settings.number? env _ with
    | none => rfl
    | some w => simp [hword, Duration.ofSeconds, Duration.ofMillis]

/-- A number of 64 bits that is spelled is stored, if the setting can hold it, and otherwise its low bits
are. -/
theorem value_of_spelled (h : x.Spelled env n) (hn : n < UInt64.size) (s : Settings) :
    x.value (s.override env) = max x.least (n % x.size) * x.unit := by
  rw [value_override, h.number?_eq hn]
  simp only [UInt64.toNat_ofNat_of_lt' hn]

/-- Without such a number a setting stays as it was. -/
theorem value_of_not_spelled (h : ∀ n, x.Spelled env n → UInt64.size ≤ n) (s : Settings) :
    x.value (s.override env) = x.value s := by
  rw [value_override, number?_eq_none h]

/-- A setting depends on no other variable. -/
theorem value_congr (h : env' x.variableName = env x.variableName) (s : Settings) :
    x.value (s.override env') = x.value (s.override env) := by
  simp only [value_override, Settings.number?, h]

/-- All settings but one can hold what is read. -/
theorem size_eq (hx : x ≠ runRetries) : x.size = UInt64.size := by
  cases x <;> first | rfl | exact absurd rfl hx

/-- The number of retries is cut exactly if it needs more than 32 bits. -/
theorem exact_runRetries_iff (s : Settings) (env : Environment) :
    runRetries.Exact s env ↔
      ∀ n, runRetries.Spelled env n → UInt32.size ≤ n → n < UInt64.size →
        n % UInt32.size = runRetries.value s := by
  have hcut {n : ℕ} (h : runRetries.Spelled env n) (hn : n < UInt64.size) :
      runRetries.value (s.override env) = n % UInt32.size := by
    rw [value_of_spelled h hn]
    simp [least, unit, size]
  constructor
  · rintro hexact n hspelled hlarge hn
    rw [← hcut hspelled hn]
    rcases hexact with hkept | ⟨m, hm, hstored⟩
    · exact hkept
    · obtain rfl := hm.unique hspelled
      rw [hcut hspelled hn] at hstored
      -- What is stored fits into the smaller word, so it is not the number that was spelled.
      have hless : m % UInt32.size < UInt32.size := Nat.mod_lt _ (by decide)
      simp only [least, unit] at hstored
      omega
  · intro hlarge
    by_cases hspelled : ∃ n, runRetries.Spelled env n ∧ n < UInt64.size
    · obtain ⟨n, hspelled, hn⟩ := hspelled
      by_cases hsmall : n < UInt32.size
      · refine Or.inr ⟨n, hspelled, ?_⟩
        rw [hcut hspelled hn, Nat.mod_eq_of_lt hsmall]
        simp [least, unit]
      · left
        rw [hcut hspelled hn, hlarge n hspelled (Nat.le_of_not_lt hsmall) hn]
    · push Not at hspelled
      exact Or.inl (value_of_not_spelled hspelled s)

/-- A setting that holds every word is left alone or gets the number that is spelled. -/
theorem exact_of_size_eq (hsize : x.size = UInt64.size) (s : Settings) (env : Environment) :
    x.Exact s env := by
  by_cases hspelled : ∃ n, x.Spelled env n ∧ n < UInt64.size
  · obtain ⟨n, hspelled, hn⟩ := hspelled
    refine Or.inr ⟨n, hspelled, ?_⟩
    rw [value_of_spelled hspelled hn, hsize, Nat.mod_eq_of_lt hn]
  · push Not at hspelled
    exact Or.inl (value_of_not_spelled hspelled s)

/-- A setting is read from its own variable only. A number that is spelled there is stored, and without a
number of 64 bits the setting stays as it was. So it is the earlier one or the number that is spelled, with
one exception: a number of retries that needs more than 32 bits is cut to another one. -/
theorem override_exact_iff (x : Numeric) (s : Settings) (env : Environment) :
    (∀ env' : Environment, env' x.variableName = env x.variableName →
      x.value (s.override env') = x.value (s.override env)) ∧
    (∀ n, x.Spelled env n → n < x.size → x.value (s.override env) = max x.least n * x.unit) ∧
    ((∀ n, x.Spelled env n → UInt64.size ≤ n) → x.value (s.override env) = x.value s) ∧
    (x.Exact s env ↔ (x = runRetries → ∀ n, x.Spelled env n → UInt32.size ≤ n → n < UInt64.size →
      n % UInt32.size = x.value s)) := by
  refine ⟨fun env' hsame => value_congr hsame s, fun n hspelled hn => ?_,
    fun hnone => value_of_not_spelled hnone s, ?_⟩
  · have hword : n < UInt64.size := lt_of_lt_of_le hn (by cases x <;> decide)
    rw [value_of_spelled hspelled hword, Nat.mod_eq_of_lt hn]
  · by_cases hx : x = runRetries
    · subst hx
      simpa using exact_runRetries_iff s env
    · simp [hx, exact_of_size_eq (size_eq hx)]

/-- An environment that spells a number of retries. -/
def retries (text : String) : Environment := fun name =>
  if name = "RUN_RETRIES" then some text else none

/-- Seven retries, with a sign and blanks. -/
theorem override_exact_iff_seven :
    runRetries.Spelled (retries " +7\n") 7 ∧
      runRetries.value (({} : Settings).override (retries " +7\n")) = 7 := by
  have hspelled : runRetries.Spelled (retries " +7\n") 7 :=
    ⟨_, rfl, [' '], ['+'], ['7'], ['\n'], by decide, List.all_eq_true.mp (by decide),
      List.all_eq_true.mp (by decide), Or.inr rfl, by decide, List.all_eq_true.mp (by decide), by decide⟩
  exact ⟨hspelled, (override_exact_iff runRetries {} _).2.1 7 hspelled (by decide)⟩

/-- Of the first number that needs more than 32 bits, no retry is left. -/
theorem retries_cut : ¬ ∀ (x : Numeric) (s : Settings) (env : Environment), x.Exact s env := by
  intro hexact
  have hspelled : runRetries.Spelled (retries "4294967296") 4294967296 :=
    ⟨_, rfl, [], [], "4294967296".toList, [], by decide, List.forall_mem_nil _, List.forall_mem_nil _,
      Or.inl rfl, by decide, List.all_eq_true.mp (by decide), by decide⟩
  have hkept := (exact_runRetries_iff {} _).mp (hexact runRetries {} (retries "4294967296")) _ hspelled
    (by decide) (by decide)
  exact absurd hkept (by decide)

end Numeric

end BenchQueue.Worker
