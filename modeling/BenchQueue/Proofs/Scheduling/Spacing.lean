import BenchQueue.Retry
import BenchQueue.Proofs.Time.Seconds
/-!
# The spacing of attempts

The delay before a retry is a power of the coefficient, in doubles, cut off at a limit. Rounding,
overflow to infinity and the cut keep the order of the exponents (`powerInt_mono`,
`Ordinary.wait_mono`). The exponents of the attempts are in order on either side of the one whose
retry is the least 32-bit word with a sign; that one has no delay, and those after it have negative
exponents (`exponent?_eq`). So `delay_spacing` says where delays grow and where they drop.
-/

namespace BenchQueue

namespace RetryPolicy

/-! ### Powers -/

/-- A power by repeated squaring, down to no exponent. -/
def powerFrom (square : Float) (rest : Nat) (product : Float) : Float :=
  if rest = 0 then product
  else powerFrom (square * square) (rest / 2) (if rest % 2 = 1 then product * square else product)
termination_by rest

/-- Without an exponent the product is done. -/
@[simp] theorem powerFrom_zero (square product : Float) : powerFrom square 0 product = product := by
  rw [powerFrom, if_pos rfl]

/-- With an exponent the square is squared and the exponent halved; an odd one takes the square into
the product. -/
theorem powerFrom_of_ne_zero (square product : Float) {rest : Nat} (h : rest ≠ 0) :
    powerFrom square rest product = powerFrom (square * square) (rest / 2)
      (if rest % 2 = 1 then product * square else product) := by
  rw [powerFrom, if_neg h]

/-- With enough fuel the power is the one by repeated squaring. -/
theorem go_eq_powerFrom (fuel : Nat) (square : Float) (rest : Nat) (product : Float)
    (henough : rest < 2 ^ fuel) :
    power.go fuel square rest product = powerFrom square rest product := by
  induction fuel generalizing square rest product with
  | zero =>
    obtain rfl : rest = 0 := by omega
    rw [power.go, powerFrom_zero]
  | succ fuel ih =>
    rw [power.go]
    obtain rfl | hmore := eq_or_ne rest 0
    · simp
    · rw [powerFrom_of_ne_zero square product hmore]
      split
      case isTrue hlast => rw [hlast, powerFrom_zero]
      case isFalse => exact ih _ _ _ (by omega)

/-- A power is the one by repeated squaring. -/
theorem power_eq (base : Float) (exponent : Nat) :
    power base exponent = powerFrom base exponent 1.0 :=
  go_eq_powerFrom _ _ _ _ (Nat.lt_two_pow_self.trans (Nat.pow_lt_pow_right (by decide) (by omega)))

section

variable {base square product product' : Float} {rest : Nat}

/-- A greater product stays the greater one, if square and product are at least one. -/
theorem powerFrom_mono (hs : 1.0 ≤ square) (hp : 1.0 ≤ product) (h : product ≤ product') :
    1.0 ≤ powerFrom square rest product ∧
      powerFrom square rest product ≤ powerFrom square rest product' := by
  induction rest using Nat.strongRecOn generalizing square product product' with
  | ind rest ih =>
    obtain rfl | hmore := eq_or_ne rest 0
    · simpa using ⟨hp, h⟩
    · rw [powerFrom_of_ne_zero square product hmore, powerFrom_of_ne_zero square product' hmore]
      have hhalf : rest / 2 < rest := by omega
      split
      case isTrue hodd =>
        exact ih _ hhalf (Double.one_le_mul hs hs) (Double.one_le_mul hp hs)
          (Double.mul_le_mul hp h hs (Double.refl_of_one_le hs))
      case isFalse heven => exact ih _ hhalf (Double.one_le_mul hs hs) hp h

/-- A power with a factor of at most the base is not above the next power. -/
theorem powerFrom_succ (hs : 1.0 ≤ square) (hp : 1.0 ≤ product) (h : product ≤ square) :
    powerFrom square rest product ≤ powerFrom square (rest + 1) 1.0 := by
  induction rest using Nat.strongRecOn generalizing square product with
  | ind rest ih =>
    have hfirst : product ≤ 1.0 * square :=
      Double.le_trans (Double.nonneg_of_one_le hp) h (Double.le_one_mul hs)
    have hsquares : 1.0 ≤ square * square := Double.one_le_mul hs hs
    rw [powerFrom_of_ne_zero square 1.0 rest.succ_ne_zero]
    obtain rfl | hmore := eq_or_ne rest 0
    · simpa using hfirst
    rw [powerFrom_of_ne_zero square product hmore]
    obtain heven | hodd : rest % 2 = 0 ∨ rest % 2 = 1 := by omega
    · have hhalf : (rest + 1) / 2 = rest / 2 := by omega
      rw [if_neg (by omega), if_pos (by omega), hhalf]
      exact (powerFrom_mono hsquares hp hfirst).2
    · have hhalf : (rest + 1) / 2 = rest / 2 + 1 := by omega
      rw [if_pos hodd, if_neg (by omega), hhalf]
      exact ih _ (by omega) hsquares (Double.one_le_mul hp hs)
        (Double.mul_le_mul hp h hs (Double.refl_of_one_le hs))

/-- The powers of a number that is at least one are at least one. -/
theorem one_le_power (hb : 1.0 ≤ base) (n : Nat) : 1.0 ≤ power base n := by
  rw [power_eq]
  exact (powerFrom_mono hb Double.one_le_one Double.one_le_one).1

/-- The powers of a number that is at least one do not shrink as the exponent grows. -/
theorem power_mono (hb : 1.0 ≤ base) {m n : Nat} (h : m ≤ n) : power base m ≤ power base n := by
  induction n, h using Nat.le_induction with
  | base => exact Double.refl_of_one_le (one_le_power hb m)
  | succ n _ ih =>
    refine Double.le_trans (Double.nonneg_of_one_le (one_le_power hb m)) ih ?_
    rw [power_eq, power_eq]
    exact powerFrom_succ hb Double.one_le_one hb

/-- The powers of a number that is at least one are not below zero, even for exponents below zero.
-/
theorem powerInt_nonneg (hb : 1.0 ≤ base) (i : Int) : 0.0 ≤ powerInt base i := by
  rw [powerInt]
  split
  · exact Double.one_div_nonneg (one_le_power hb _)
  · exact Double.nonneg_of_one_le (one_le_power hb _)

/-- The powers of a base that is not below one grow with the exponent, also across zero. -/
theorem powerInt_mono (hb : 1.0 ≤ base) {i j : Int} (h : i ≤ j) :
    powerInt base i ≤ powerInt base j := by
  have hone := one_le_power hb
  rw [powerInt, powerInt]
  split <;> split
  case isTrue.isTrue => exact (Double.one_div_le_one_div (hone _) (power_mono hb (by omega))).2
  case isTrue.isFalse =>
    exact Double.le_trans (Double.one_div_nonneg (hone _)) (Double.one_div_le_one (hone _)) (hone _)
  case isFalse.isTrue => omega
  case isFalse.isFalse => exact power_mono hb (by omega)

end

/-! ### Seconds before an attempt -/

/-- The lesser of two numbers has the lesser count. -/
theorem counts_least {x y : Float} {v w : ℕ∞} (hx : Counts x v) (hy : Counts y w) :
    Counts (least x y) (min v w) := by
  rw [least, hx.not_isNaN, if_neg Bool.false_ne_true]
  split
  case isTrue hlt => rwa [min_eq_right ((hy.lt_iff hx).1 hlt).le]
  case isFalse hge => rwa [min_eq_left (not_lt.1 (mt (hy.lt_iff hx).2 hge))]

/-- Between a millisecond and a million seconds. -/
def Moderate (d : Duration) : Prop :=
  nanosPerMilli ≤ d.nanos ∧ d.nanos ≤ 1000000 * nanosPerSecond

/-- A moderate duration is not zero. -/
theorem Moderate.isZero {d : Duration} (h : Moderate d) : d.isZero = false := by
  have hge : 1000000 ≤ d.nanos := h.1
  simp only [Duration.isZero, beq_eq_false_iff_ne]
  omega

/-- The seconds of a moderate duration are a number above zero and not far above a million. -/
theorem Moderate.counts_toFloat {d : Duration} (h : Moderate d) :
    ∃ v : Nat, Counts d.toFloat v ∧ v ≤ 1000001 * unitsInOne ∧ v ≠ 0 := by
  have hge : 1000000 ≤ d.nanos := h.1
  have hle : d.nanos ≤ 1000000 * 1000000000 := h.2
  have hseconds : d.seconds ≤ 1000000 := by
    simp only [Duration.seconds, nanosPerSecond]
    omega
  obtain ⟨v, hv, hbound, hpos⟩ := d.counts_toFloat (by omega)
  refine ⟨v, hv, hbound.trans (Nat.mul_le_mul_right _ (by omega)), ?_⟩
  have := hpos (by omega)
  omega

/-- A policy with waits between a millisecond and a million seconds that do not shrink from one
retry to the next and do not vary. -/
structure Ordinary (p : RetryPolicy) : Prop where
  initial : Moderate p.initialInterval
  max : Moderate p.maxInterval
  finite : p.coefficient.isFinite = true
  one_le_coefficient : 1.0 ≤ p.coefficient
  no_jitter : (p.jitter == 0.0) = true

section

variable {p : RetryPolicy} (hordinary : p.Ordinary)

include hordinary

/-- The units of the seconds before an attempt, from those of the power of the coefficient. -/
theorem Ordinary.units_baseSeconds :
    ∃ first most : Nat, most ≤ 1000001 * unitsInOne ∧
      ∀ (i : Int) (u : ℕ∞), Counts (powerInt p.coefficient i) u →
        Counts (p.baseSeconds i) (min (product first u) most) := by
  obtain ⟨first, hfirst, -, hnonzero⟩ := hordinary.initial.counts_toFloat
  obtain ⟨most, hmost, hbound, -⟩ := hordinary.max.counts_toFloat
  refine ⟨first, most, hbound, fun i u hu => ?_⟩
  rw [baseSeconds, hordinary.max.isZero, if_neg Bool.false_ne_true]
  exact counts_least (hfirst.mul hu (fun hzero => absurd (Nat.cast_eq_zero.1 hzero) hnonzero)
    fun _ => ENat.natCast_ne_top _) hmost

/-- The seconds before an attempt do not shrink as the exponent grows, up to the limit. -/
theorem Ordinary.counts_baseSeconds {i j : Int} (h : i ≤ j) :
    ∃ v w : Nat, Counts (p.baseSeconds i) v ∧ Counts (p.baseSeconds j) w ∧ v ≤ w ∧
      w ≤ 1000001 * unitsInOne := by
  obtain ⟨first, most, hbound, hunits⟩ := hordinary.units_baseSeconds
  have hpower := powerInt_mono hordinary.one_le_coefficient h
  obtain ⟨u, hu⟩ := Double.counts_of_nonneg (powerInt_nonneg hordinary.one_le_coefficient i)
  obtain ⟨u', hu'⟩ := hu.exists_of_le hpower
  have hfinite (u : ℕ∞) : ∃ v : Nat, (v : ℕ∞) = min (product first u) most :=
    ENat.ne_top_iff_exists.1 (ne_top_of_le_ne_top (ENat.natCast_ne_top _) (min_le_right _ _))
  obtain ⟨v, hv⟩ := hfinite u
  obtain ⟨w, hw⟩ := hfinite u'
  have hmono : (v : ℕ∞) ≤ w := by
    rw [hv, hw]
    exact min_le_min_right _ (product_mono le_rfl ((hu.le_iff hu').1 hpower))
  have hlimit : (w : ℕ∞) ≤ most := hw.trans_le (min_le_right _ _)
  exact ⟨v, w, hv ▸ hunits i u hu, hw ▸ hunits j u' hu', Nat.cast_le.1 hmono,
    (Nat.cast_le.1 hlimit).trans hbound⟩

/-- The waits for two exponents exist and are in the order of the exponents. -/
theorem Ordinary.wait_mono {i j : Int} (h : i ≤ j) :
    ∃ d e, Duration.ofFloat? (p.baseSeconds i) = some d ∧
      Duration.ofFloat? (p.baseSeconds j) = some e ∧ d.nanos ≤ e.nanos := by
  obtain ⟨v, w, hv, hw, hle, hbound⟩ := hordinary.counts_baseSeconds h
  rw [Duration.ofFloat?_eq hv, Duration.ofFloat?_eq hw]
  have hmono : roundHalfEven (v * nanosPerSecond) unitsInOne ≤
      roundHalfEven (w * nanosPerSecond) unitsInOne :=
    roundHalfEven_mono unitsInOne_pos unitsInOne_pos
      (Nat.mul_le_mul_right _ (Nat.mul_le_mul_right _ hle))
  have hmost : roundHalfEven (w * nanosPerSecond) unitsInOne ≤ 1000001 * nanosPerSecond := by
    refine roundHalfEven_le unitsInOne_pos ?_
    rw [Nat.mul_right_comm]
    exact Nat.mul_le_mul_right _ hbound
  have hshort : 1000001 * nanosPerSecond < UInt64.size * nanosPerSecond := by decide
  exact ⟨_, _, dif_pos (by omega), dif_pos (by omega), hmono⟩

end

/-! ### Waits before attempts -/

/-- The number of retries before an attempt, as a signed word: beyond half of the range it is
negative. -/
theorem toInt_retry {attempt : UInt32} (h : 1 < attempt.toNat) :
    (attempt - 1).toInt32.toInt =
      if attempt.toNat ≤ 2147483648 then (attempt.toNat : Int) - 1
      else (attempt.toNat : Int) - 1 - 4294967296 := by
  have hretry : (attempt - 1).toBitVec.toNat = attempt.toNat - 1 := by
    have hle : 1 ≤ attempt := UInt32.le_iff_toNat_le.2 h.le
    exact UInt32.toNat_sub_of_le _ _ hle
  change (attempt - 1).toBitVec.toInt = _
  rw [BitVec.toInt_eq_toNat_cond, hretry]
  split <;> split <;> omega

/-- The exponents go up from zero to the middle of the attempts, where one has none, and start again
far below zero. -/
theorem exponent?_eq {attempt : UInt32} (h : 1 < attempt.toNat) :
    exponent? attempt =
      if attempt.toNat = 2147483649 then none
      else if attempt.toNat ≤ 2147483648 then some ((attempt.toNat : Int) - 2)
      else some ((attempt.toNat : Int) - 2 - 4294967296) := by
  have hleast : Int32.minValue.toInt = -2147483648 := rfl
  simp only [exponent?, toInt_retry h, hleast]
  obtain hmiddle | hearly | hlate : attempt.toNat = 2147483649 ∨ attempt.toNat ≤ 2147483648 ∨
    2147483649 < attempt.toNat := by omega
  · simp [hmiddle]
  · rw [if_pos hearly, if_neg (by omega), if_neg (by omega), if_pos hearly, Option.some_inj]
    omega
  · rw [if_neg (by omega), if_neg (by omega), if_neg (by omega), if_neg (by omega), Option.some_inj]
    omega

/-- The exponent cannot be computed for one attempt, the one whose number of retries is the least
signed word. -/
theorem exponent?_eq_none_iff {attempt : UInt32} (h : 1 < attempt.toNat) :
    exponent? attempt = none ↔ attempt.toNat = 2147483649 := by
  rw [exponent?_eq h]
  split
  case isTrue hmiddle => simp [hmiddle]
  case isFalse hside => split <;> simp [hside]

/-- Before the middle the exponent counts from the second attempt, and after it from below zero. -/
theorem exponent_eq {attempt : UInt32} {i : Int} (h : 1 < attempt.toNat)
    (hexponent : exponent? attempt = some i) :
    attempt.toNat ≤ 2147483648 ∧ i = attempt.toNat - 2 ∨
      2147483649 < attempt.toNat ∧ i = attempt.toNat - 2 - 4294967296 := by
  rw [exponent?_eq h] at hexponent
  split at hexponent
  · cases hexponent
  · split at hexponent <;> rw [Option.some_inj] at hexponent <;> omega

/-- Without jitter nothing is added to the seconds, whatever is drawn. -/
theorem jittered?_eq (draw : Float → Float) {jitter : Float} (h : (jitter == 0.0) = true)
    (seconds : Float) : jittered? draw jitter seconds = some seconds := by
  rw [jittered?, if_neg (not_pos_of_beq_zero h)]

section

variable {p : RetryPolicy} (hordinary : p.Ordinary) (draw : Float → Float)

include hordinary

/-- The delay of an ordinary policy before a retry is made of its exponent and the seconds for it.
-/
theorem Ordinary.delay?_eq {attempt : UInt32} (h : 1 < attempt.toNat) :
    p.delay? draw attempt =
      (exponent? attempt).bind fun exponent => Duration.ofFloat? (p.baseSeconds exponent) := by
  have hlater : ¬ attempt ≤ 1 := by rw [UInt32.le_iff_toNat_le]; exact Nat.not_le.2 h
  simp [delay?, hlater, hordinary.initial.isZero, jittered?_eq draw hordinary.no_jitter]

omit hordinary in
/-- The first attempt does not wait. -/
theorem delay?_first {attempt : UInt32} (h : attempt.toNat ≤ 1) :
    p.delay? draw attempt = some .zero := by
  have hfirst : attempt ≤ 1 := UInt32.le_iff_toNat_le.2 h
  simp [delay?, hfirst]

/-- An attempt has a delay unless the number of its retry is the least word with a sign. -/
theorem Ordinary.delay?_eq_none_iff (attempt : UInt32) :
    p.delay? draw attempt = none ↔ attempt = 2147483649 := by
  have hmiddle : attempt = 2147483649 ↔ attempt.toNat = 2147483649 := UInt32.toNat_inj.symm
  rw [hmiddle]
  obtain hfirst | hlater := le_or_gt attempt.toNat 1
  · rw [delay?_first draw hfirst]
    exact iff_of_false nofun (by omega)
  rw [hordinary.delay?_eq draw hlater, ← exponent?_eq_none_iff hlater]
  cases exponent? attempt with
  | none => simp
  | some i =>
    obtain ⟨d, -, hd, -⟩ := hordinary.wait_mono (Int.le_refl i)
    simp [hd]

/-- The delays of two retries are in the order of their exponents. -/
theorem Ordinary.delay_mono {a b : UInt32} {d e : Duration}
    (hlater : 1 < a.toNat) (hlater' : 1 < b.toNat)
    (hd : p.delay? draw a = some d) (he : p.delay? draw b = some e) :
    ∃ i j, exponent? a = some i ∧ exponent? b = some j ∧ (i ≤ j → d.nanos ≤ e.nanos) := by
  rw [hordinary.delay?_eq draw hlater] at hd
  rw [hordinary.delay?_eq draw hlater'] at he
  obtain ⟨i, ha, hd⟩ := Option.bind_eq_some_iff.1 hd
  obtain ⟨j, hb, he⟩ := Option.bind_eq_some_iff.1 he
  refine ⟨i, j, ha, hb, fun h => ?_⟩
  obtain ⟨d', e', hd', he', hle⟩ := hordinary.wait_mono h
  rw [hd', Option.some_inj] at hd
  rw [he', Option.some_inj] at he
  rwa [← hd, ← he]

end

/-- **When waits grow.** Of a policy with waits between a millisecond and a million seconds that do
not shrink and do not vary, every attempt but one has a delay: there is none where the number of the
retry is the least word with a sign. The delays grow up to that attempt and again after it, where
every one is at most as long as any delay of an earlier retry on the other side. -/
theorem delay_spacing {p : RetryPolicy} (hordinary : p.Ordinary) (draw : Float → Float) :
    (∀ attempt, p.delay? draw attempt = none ↔ attempt = 2147483649) ∧
    ∀ a b d e, a ≤ b → p.delay? draw a = some d → p.delay? draw b = some e →
      (a ≤ 1 ∨ b ≤ 2147483648 ∨ 2147483650 ≤ a → d.nanos ≤ e.nanos) ∧
      (2 ≤ a → a ≤ 2147483648 → 2147483650 ≤ b → e.nanos ≤ d.nanos) := by
  refine ⟨hordinary.delay?_eq_none_iff draw, fun a b d e hle hd he => ?_⟩
  simp only [UInt32.le_iff_toNat_le, UInt32.reduceToNat] at hle ⊢
  obtain hfirst | hlater := le_or_gt a.toNat 1
  · rw [delay?_first draw hfirst, Option.some_inj] at hd
    exact ⟨fun _ => hd ▸ Nat.zero_le _, fun _ => by omega⟩
  have hlater' : 1 < b.toNat := hlater.trans_le hle
  have hsmall := b.toNat_lt
  constructor
  · intro hside
    obtain ⟨i, j, ha, hb, hmono⟩ := hordinary.delay_mono draw hlater hlater' hd he
    have := exponent_eq hlater ha
    have := exponent_eq hlater' hb
    exact hmono (by omega)
  · intro _ hbefore hafter
    obtain ⟨j, i, hb, ha, hmono⟩ := hordinary.delay_mono draw hlater' hlater he hd
    have := exponent_eq hlater ha
    have := exponent_eq hlater' hb
    exact hmono (by omega)

/-- Waits that double from a second to at most a minute. -/
def doublingToMinute : RetryPolicy :=
  { initialInterval := .ofMillis 1000, maxInterval := .ofMillis 60000, coefficient := 2.0 }

/-- The doubling policy with a minute at most is an ordinary one. -/
theorem doublingToMinute_ordinary : doublingToMinute.Ordinary where
  initial := ⟨by decide, by decide⟩
  max := ⟨by decide, by decide⟩
  finite := by decide +kernel
  one_le_coefficient := by decide +kernel
  no_jitter := by decide +kernel

/-- The last delay before the attempt without one is a minute, the last delay of all an eighth of a
second. -/
theorem delay_spacing_doublingToMinute :
    doublingToMinute.Ordinary ∧ doublingToMinute.delay? id 2147483649 = none ∧
      doublingToMinute.delay? id 2147483648 = some (.ofMillis 60000) ∧
      doublingToMinute.delay? id 4294967295 = some (.ofMillis 125) ∧
      (Duration.ofMillis 125).nanos ≤ (Duration.ofMillis 60000).nanos := by
  have ⟨habsent, horder⟩ := delay_spacing doublingToMinute_ordinary id
  have hbefore : doublingToMinute.delay? id 2147483648 = some (.ofMillis 60000) := by decide +kernel
  have hafter : doublingToMinute.delay? id 4294967295 = some (.ofMillis 125) := by decide +kernel
  exact ⟨doublingToMinute_ordinary, (habsent _).2 rfl, hbefore, hafter,
    (horder _ _ _ _ (by decide) hbefore hafter).2 (by decide) (by decide) (by decide)⟩

/-- It is not so that all attempts have delays that do not shrink. -/
theorem delays_not_monotone :
    ¬ ∀ (p : RetryPolicy) (draw : Float → Float), p.Ordinary → ∀ a b, a ≤ b →
      ∃ d e, p.delay? draw a = some d ∧ p.delay? draw b = some e ∧ d.nanos ≤ e.nanos := by
  intro h
  obtain ⟨d, -, hd, -, -⟩ := h doublingToMinute id doublingToMinute_ordinary 2147483649 2147483649
    (by decide)
  have habsent : doublingToMinute.delay? id 2147483649 = none := by decide +kernel
  rw [habsent] at hd
  cases hd

end RetryPolicy

end BenchQueue
