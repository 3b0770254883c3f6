import Mathlib
import BenchQueue.Proofs.Number.Rounding
/-!
# Doubles as numbers of units

Every finite double is a multiple of the least positive one, so a nonnegative double is a natural
number of such units, or infinite. `Canonical` relates the unpacked form that arithmetic works on to
the number of units, and what arithmetic rounds is the significant part of the exact number
(`canonical_roundWithAccuracy`, `canonical_round`).
-/

namespace BenchQueue

open Float.Model Float.Model.UnpackedFloat

/-- The least positive double is two to the power of this number, negated. -/
@[irreducible] def leastPlace : Nat := 1074

/-- The units in the number one. -/
def unitsInOne : Nat := 2 ^ leastPlace

/-- There is a unit in the number one. -/
theorem unitsInOne_pos : 0 < unitsInOne := Nat.two_pow_pos _

/-- A quotient of at most a small whole number is rounded to at most that number. -/
theorem significant_le_whole {n d m : Nat} (hm : m < 2 ^ 53) (hd : 0 < d)
    (h : n ≤ m * unitsInOne * d) : significant n d ≤ m * unitsInOne :=
  significant_le hm hd h

/-! ### Residual bits -/

/-- The whole part of a quotient with what its remainder leaves for the two residual bits. -/
def extended (n d : Nat) : ExtendedMantissa :=
  ⟨n / d, decide (d ≤ 2 * (n % d)), decide (2 * (n % d) ≠ 0 ∧ 2 * (n % d) ≠ d)⟩

section

variable {n d : Nat}

/-- A shift by one bit halves the quotient and keeps what its remainder says. -/
theorem shiftRightOne_extended (hd : 0 < d) :
    (extended n d).shiftRightOne = extended n (2 * d) := by
  have hsplit : n = n / d * d + n % d := (Nat.div_add_mod' n d).symm
  have hsmall : n % d < d := Nat.mod_lt n hd
  have hhalf : n / (2 * d) = n / d / 2 := by rw [Nat.mul_comm, Nat.div_div_eq_div_mul]
  have hrest : n % (2 * d) = n / d % 2 * d + n % d := by
    rw [Nat.mul_comm 2 d, Nat.mod_mul, Nat.mul_comm, Nat.add_comm]
  simp only [extended, ExtendedMantissa.shiftRightOne, hhalf, hrest]
  obtain heven | hodd : n / d % 2 = 0 ∨ n / d % 2 = 1 := by omega
  · simp [heven]
    grind
  · simp [hodd]
    grind

/-- A shift by some bits divides the quotient by their power of two. -/
theorem shiftRight_extended (hd : 0 < d) (k : Nat) :
    extended n d >>> k = extended n (d * 2 ^ k) := by
  change Nat.repeat ExtendedMantissa.shiftRightOne k (extended n d) = _
  induction k with
  | zero => simp [Nat.repeat]
  | succ k ih =>
    rw [Nat.repeat, ih, shiftRightOne_extended (by positivity)]
    congr 1
    ring

/-- An exact mantissa is a quotient without a remainder. -/
theorem ofMantissaAndAccuracy_exact (m : Nat) :
    ExtendedMantissa.ofMantissaAndAccuracy m .exact = extended m 1 := by
  simp [ExtendedMantissa.ofMantissaAndAccuracy, extended, Nat.mod_one]

/-- The accuracy of a fraction is what the remainder of its quotient says. -/
theorem ofMantissaAndAccuracy_fraction (hd : 0 < d) :
    ExtendedMantissa.ofMantissaAndAccuracy (n / d) (accuracyOfFraction (n % d) d) =
      extended n d := by
  simp only [accuracyOfFraction, extended]
  split
  case isTrue hwhole => simp [ExtendedMantissa.ofMantissaAndAccuracy, hwhole, hd.ne']
  case isFalse hpart =>
    rcases horder : compare (2 * (n % d)) d with - | - | -
    all_goals simp only [Nat.compare_eq_lt, Nat.compare_eq_eq, Nat.compare_eq_gt] at horder
    all_goals simp [ExtendedMantissa.ofMantissaAndAccuracy]; omega

/-- The accuracy is read back from the residual bits. -/
@[simp] theorem accuracy_ofMantissaAndAccuracy (m : Nat) (accuracy : Accuracy) :
    (ExtendedMantissa.ofMantissaAndAccuracy m accuracy).accuracy = accuracy := by
  rcases accuracy with - | (- | - | -) <;> rfl

/-- The mantissa is kept beside the residual bits. -/
@[simp] theorem mantissa_ofMantissaAndAccuracy (m : Nat) (accuracy : Accuracy) :
    (ExtendedMantissa.ofMantissaAndAccuracy m accuracy).mantissa = m := by
  rcases accuracy with - | (- | - | -) <;> rfl

/-- The residual bits suffice to round the quotient. -/
theorem roundedMantissa_extended (hd : 0 < d) :
    (extended n d).roundedMantissa = roundHalfEven n d := by
  rw [← ofMantissaAndAccuracy_fraction hd]
  simp only [ExtendedMantissa.roundedMantissa, accuracy_ofMantissaAndAccuracy,
    mantissa_ofMantissaAndAccuracy, accuracyOfFraction, roundHalfEven]
  split
  case isTrue hwhole => simp [Accuracy.roundToNearestEven, hwhole, hd]
  case isFalse hpart =>
    rcases horder : compare (2 * (n % d)) d with - | - | -
    all_goals simp only [Nat.compare_eq_lt, Nat.compare_eq_eq, Nat.compare_eq_gt] at horder
    all_goals simp only [Accuracy.roundToNearestEven]; grind

end

/-! ### Rounding of unpacked numbers -/

/-- A number that is not negative in the form that arithmetic rounds to, with its number of units:
at most 53 bits in its mantissa, and exactly as many unless it has the least exponent. -/
inductive Canonical : Float.Model.UnpackedFloat → Nat → Prop
  | zero (s : Sign) : Canonical (.zero s) 0
  | finite {m k : Nat} (hpos : 0 < m) (hsmall : m < 2 ^ 53) (hfull : k = 0 ∨ 2 ^ 52 ≤ m) :
    Canonical (.finite .positive m (k - leastPlace) hpos) (m * 2 ^ k)

/-- The target of the exponent leaves 53 bits, but is never below the least one. -/
theorem targetExponent_eq (total : Int) :
    Format.binary64.targetExponent total = max (total - 53) (-leastPlace) := by
  have : Format.binary64.minExponent = -leastPlace := by
    rw [leastPlace]
    decide
  simp only [Format.targetExponent, this, Format.mantissaBits]
  rfl

/-- The number of a mantissa and an exponent; a mantissa of zero makes a zero. -/
def ofMantissa (m : Nat) (e : Int) : Float.Model.UnpackedFloat :=
  if h : m = 0 then .zero .positive else .finite .positive m e (Nat.pos_of_ne_zero h)

/-- A mantissa of at most 53 bits, and exactly as many above the least place, is canonical. -/
theorem canonical_ofMantissa {m k : Nat} {e : Int} (hplace : e = k - leastPlace) (hsmall : m < 2 ^ 53)
    (hfull : k = 0 ∨ 2 ^ 52 ≤ m) : Canonical (ofMantissa m e) (m * 2 ^ k) := by
  subst hplace
  unfold ofMantissa
  split
  case isTrue hzero => simpa [hzero] using Canonical.zero .positive
  case isFalse hnonzero => exact .finite (Nat.pos_of_ne_zero hnonzero) hsmall hfull

/-- The shift to the target divides the quotient and keeps what its remainder says. -/
theorem shiftToTargetExponent_eq {n d q : Nat} {e : Int} {accuracy : Accuracy} (hd : 0 < d)
    (hsame : ExtendedMantissa.ofMantissaAndAccuracy q accuracy = extended n d) {s : Nat}
    (hs : (Format.binary64.targetExponent (totalExponent q e) - e).toNat = s) :
    shiftToTargetExponent Format.binary64 q e accuracy = (extended n (d * 2 ^ s), e + s) := by
  simp [shiftToTargetExponent, shiftToExponent, hsame, hs, shiftRight_extended hd]

/-- A mantissa rounded to its place is shifted once more if the rounding has carried over. -/
theorem canonical_carry {r k : Nat} {e : Int} (hplace : e = k - leastPlace) (hle : r ≤ 2 ^ 53)
    (hfull : k = 0 ∨ 2 ^ 52 ≤ r) :
    let shifted := shiftToTargetExponent Format.binary64 r e .exact
    Canonical (ofMantissa shifted.1.mantissa shifted.2) (r * 2 ^ k) := by
  have htarget : Format.binary64.targetExponent (totalExponent r e) =
    max (r.log2 + 1 + e - 53) (-leastPlace) := targetExponent_eq _
  obtain hwithin | rfl := Nat.lt_or_eq_of_le hle
  · have : r.log2 ≤ 52 := by
      by_cases h : r = 0
      · simp [h]
      · exact Nat.le_of_lt_succ ((Nat.log2_lt h).2 hwithin)
    rw [shiftToTargetExponent_eq Nat.one_pos (ofMantissaAndAccuracy_exact r) (s := 0) (by omega)]
    simpa [extended] using canonical_ofMantissa hplace hwithin hfull
  · have hcarried : Nat.log2 (2 ^ 53) = 53 := Nat.log2_two_pow
    rw [hcarried] at htarget
    rw [shiftToTargetExponent_eq Nat.one_pos (ofMantissaAndAccuracy_exact _) (s := 1) (by omega)]
    have := canonical_ofMantissa (m := 2 ^ 52) (k := k + 1) (e := e + 1) (by push_cast; omega)
      (by decide) (.inr le_rfl)
    rw [show 2 ^ 53 * 2 ^ k = 2 ^ 52 * 2 ^ (k + 1) by ring]
    simpa [extended] using this

/-- A power of two in front of a quotient adds its bits. -/
theorem log2_shifted {n d c : Nat} (hd : 0 < d) (h : n / d ≠ 0) :
    (n * 2 ^ c / d).log2 = (n / d).log2 + c := by
  have hbelow : n < 2 ^ ((n / d).log2 + 1) * d := (Nat.div_lt_iff_lt_mul hd).1 Nat.lt_log2_self
  have habove : 2 ^ (n / d).log2 * d ≤ n := (Nat.le_div_iff_mul_le hd).1 (Nat.log2_self_le h)
  generalize (n / d).log2 = l at hbelow habove
  have hleast : 2 ^ (l + c) ≤ n * 2 ^ c / d := by
    refine (Nat.le_div_iff_mul_le hd).2 ?_
    calc 2 ^ (l + c) * d = 2 ^ l * d * 2 ^ c := by ring
      _ ≤ n * 2 ^ c := Nat.mul_le_mul_right _ habove
  have hmost : n * 2 ^ c / d < 2 ^ (l + c + 1) := by
    refine (Nat.div_lt_iff_lt_mul hd).2 ?_
    calc n * 2 ^ c < 2 ^ (l + 1) * d * 2 ^ c := Nat.mul_lt_mul_of_pos_right hbelow (by positivity)
      _ = 2 ^ (l + c + 1) * d := by ring
  have hpositive : n * 2 ^ c / d ≠ 0 := by
    have : 0 < 2 ^ (l + c) := by positivity
    omega
  exact (Nat.log2_eq_iff hpositive).2 ⟨hleast, hmost⟩

/-- The place that a rounding puts the last bit at is where the significant bits of the number of
units end. -/
theorem excess_quotient {n d a b : Nat} {e : Int} (hd : 0 < d) (hplace : e + leastPlace = b - a)
    (hfits : e ≤ Format.binary64.targetExponent (totalExponent (n / d) e)) :
    (excess (n * 2 ^ b / (d * 2 ^ a)) : Int) =
      Format.binary64.targetExponent (totalExponent (n / d) e) + leastPlace := by
  rw [targetExponent_eq, totalExponent] at hfits ⊢
  obtain hle | hlt := le_or_gt b a
  · obtain ⟨c, rfl⟩ := Nat.exists_eq_add_of_le hle
    have : n * 2 ^ b / (d * 2 ^ (b + c)) = n / d / 2 ^ c := by
      rw [Nat.pow_add, Nat.mul_left_comm, Nat.mul_comm n, Nat.mul_div_mul_left _ _ (by positivity),
        Nat.div_div_eq_div_mul]
    have hfewer : (n / d / 2 ^ c).log2 = (n / d).log2 - c := by
      simp only [Nat.log2_eq_log_two, Nat.log_div_base_pow]
    rw [this, excess, hfewer]
    omega
  · obtain ⟨c, rfl⟩ := Nat.exists_eq_add_of_le hlt.le
    have : n * 2 ^ (a + c) / (d * 2 ^ a) = n * 2 ^ c / d := by
      rw [Nat.pow_add, Nat.mul_left_comm, Nat.mul_comm d, Nat.mul_div_mul_left _ _ (by positivity)]
    have hnonzero : n / d ≠ 0 := by
      intro hzero
      rw [hzero, Nat.log2_zero] at hfits
      omega
    rw [this]
    simp only [excess, log2_shifted hd hnonzero]
    omega

/-- A number is rounded at its target and then shifted once more, in case the rounding has carried.
-/
theorem roundWithAccuracy_eq {q : Nat} {e e' : Int} {accuracy : Accuracy} {em : ExtendedMantissa}
    (hshifted : shiftToTargetExponent Format.binary64 q e accuracy = (em, e')) :
    roundWithAccuracy Format.binary64 .positive q e accuracy =
      let last := shiftToTargetExponent Format.binary64 em.roundedMantissa e' .exact
      ofMantissa last.1.mantissa last.2 := by
  rw [roundWithAccuracy, hshifted]
  rfl

/-- Arithmetic rounds a quotient at any place to its significant part. -/
theorem canonical_roundWithAccuracy {n d a b q : Nat} {e : Int} {accuracy : Accuracy} (hd : 0 < d)
    (hsame : ExtendedMantissa.ofMantissaAndAccuracy q accuracy = extended n d)
    (hplace : e + leastPlace = b - a)
    (hfits : e ≤ Format.binary64.targetExponent (totalExponent q e)) :
    Canonical (roundWithAccuracy Format.binary64 .positive q e accuracy)
      (significant (n * 2 ^ b) (d * 2 ^ a)) := by
  obtain rfl : q = n / d := by
    simpa [extended] using congrArg ExtendedMantissa.mantissa hsame
  have hbits := excess_quotient hd hplace hfits
  have hpositive : 0 < d * 2 ^ a := by positivity
  have hle := leading_le (n := n * 2 ^ b) hpositive
  have hfull := le_leading (n := n * 2 ^ b) hpositive
  simp only [significant]
  generalize excess (n * 2 ^ b / (d * 2 ^ a)) = k at hbits hle hfull ⊢
  obtain ⟨s, hs⟩ := Int.eq_ofNat_of_zero_le (Int.sub_nonneg_of_le hfits)
  have hshifted := shiftToTargetExponent_eq hd hsame (s := s) (e := e) (by omega)
  have hleading : roundHalfEven n (d * 2 ^ s) = roundHalfEven (n * 2 ^ b) (d * 2 ^ a * 2 ^ k) := by
    refine roundHalfEven_congr (by positivity) (by positivity) ?_
    have : a + k = b + s := by omega
    calc n * (d * 2 ^ a * 2 ^ k) = n * d * 2 ^ (a + k) := by ring
      _ = n * 2 ^ b * (d * 2 ^ s) := by rw [this]; ring
  rw [roundWithAccuracy_eq hshifted, roundedMantissa_extended (by positivity), hleading]
  refine canonical_carry (by omega) hle ?_
  exact (Nat.eq_zero_or_pos k).imp_right hfull

/-- A whole number is rounded at any place to its significant part. -/
theorem canonical_round {m k : Nat} {e : Int} (hpos : 0 < m) (hplace : e + leastPlace = k) :
    Canonical (UnpackedFloat.round Format.binary64 .positive m e) (significant (m * 2 ^ k) 1) := by
  have htarget : Format.binary64.targetExponent (totalExponent m e) =
    max (m.log2 + 1 + e - 53) (-leastPlace) := targetExponent_eq _
  simp only [UnpackedFloat.round, decreaseExponent]
  generalize Format.binary64.targetExponent (totalExponent m e) = t at htarget ⊢
  generalize hs : (e - t).toNat = s
  rw [Nat.shiftLeft_eq]
  have hfits : e - s ≤ Format.binary64.targetExponent (totalExponent (m * 2 ^ s) (e - s)) := by
    have hmore : (m * 2 ^ s).log2 = m.log2 + s := by
      simpa using log2_shifted (c := s) Nat.one_pos (by simpa using hpos.ne')
    rw [targetExponent_eq, totalExponent, hmore]
    omega
  have hrounded := canonical_roundWithAccuracy (a := s) (b := k) Nat.one_pos
    (ofMantissaAndAccuracy_exact (m * 2 ^ s)) (by omega) hfits
  have hvalue : significant (m * 2 ^ s * 2 ^ k) (1 * 2 ^ s) = significant (m * 2 ^ k) 1 :=
    significant_congr (by positivity) Nat.one_pos (by ring)
  rwa [hvalue] at hrounded

/-- A mantissa with an exponent is normalized to the nearest canonical number. -/
theorem canonical_normalize {k : Nat} {e : Int} (m : Nat) (hplace : e + leastPlace = k) :
    Canonical (UnpackedFloat.normalize Format.binary64 m e .positive) (significant (m * 2 ^ k) 1) := by
  obtain rfl | hpos := Nat.eq_zero_or_pos m
  · simpa [UnpackedFloat.normalize, significant, roundHalfEven] using Canonical.zero .positive
  · have : compare (m : Int) 0 = .gt := Int.compare_eq_gt.2 (by omega)
    simpa [UnpackedFloat.normalize, this] using canonical_round hpos hplace

/-! ### Arithmetic on unpacked numbers -/

section

variable {x y : Float.Model.UnpackedFloat} {v w d : Nat}

/-- A number in the form that arithmetic rounds to is its own rounding. -/
theorem Canonical.significant_mul (hx : Canonical x v) (hd : 0 < d) :
    significant (v * d) d = v := by
  cases hx with
  | zero s => simpa using BenchQueue.significant_mul (m := 0) (by decide) 0 hd
  | finite hpos hsmall hfull => exact BenchQueue.significant_mul hsmall _ hd

/-- A product is the significant part of the exact one. -/
theorem Canonical.mul (hx : Canonical x v) (hy : Canonical y w) :
    Canonical (UnpackedFloat.mul Format.binary64 x y) (significant (v * w) unitsInOne) := by
  have hnothing : significant 0 unitsInOne = 0 := by
    simpa using (Canonical.zero .positive).significant_mul unitsInOne_pos
  cases hx with
  | zero s => cases hy <;> simpa [UnpackedFloat.mul, hnothing] using Canonical.zero _
  | @finite m k hpos hsmall hfull =>
    cases hy with
    | zero s => simpa [UnpackedFloat.mul, hnothing] using Canonical.zero _
    | @finite m' k' hpos' hsmall' hfull' =>
      -- one of the mantissas is full, unless both numbers are at the least place
      have hfits : (k - leastPlace + (k' - leastPlace) : Int) ≤ Format.binary64.targetExponent
          (totalExponent (m * m') (k - leastPlace + (k' - leastPlace))) := by
        rw [targetExponent_eq, totalExponent]
        have hbits : k = 0 ∧ k' = 0 ∨ 52 ≤ (m * m').log2 := by
          rw [Nat.le_log2 (Nat.mul_pos hpos hpos').ne']
          have := Nat.le_mul_of_pos_right m hpos'
          have := Nat.le_mul_of_pos_left m' hpos
          omega
        omega
      have := canonical_roundWithAccuracy (a := leastPlace) (b := k + k') Nat.one_pos
        (ofMantissaAndAccuracy_exact (m * m')) (by push_cast; ring) hfits
      rw [Nat.one_mul, Nat.pow_add, Nat.mul_mul_mul_comm] at this
      exact this

/-- A smaller exponent makes the mantissa larger by the power of two between them. -/
theorem decreaseExponent_eq {m j k : Nat} (h : j ≤ k) :
    decreaseExponent m (k - leastPlace) (j - leastPlace) =
      (m * 2 ^ (k - j), (j : Int) - leastPlace) := by
  have : (k - leastPlace - (j - leastPlace) : Int).toNat = k - j := by omega
  simp only [decreaseExponent, this, Nat.shiftLeft_eq]
  congr 1
  omega

/-- A sum is the significant part of the exact one. -/
theorem Canonical.add (hx : Canonical x v) (hy : Canonical y w) :
    Canonical (UnpackedFloat.add Format.binary64 x y) (significant (v + w) 1) := by
  have hself := hx.significant_mul Nat.one_pos
  have hself' := hy.significant_mul Nat.one_pos
  rw [Nat.mul_one] at hself hself'
  cases hx with
  | zero s =>
    rw [Nat.zero_add, hself']
    cases hy with
    | zero s' =>
      simp only [UnpackedFloat.add]
      split <;> exact .zero _
    | finite hpos hsmall hfull => exact .finite hpos hsmall hfull
  | @finite m k hpos hsmall hfull =>
    cases hy with
    | zero s =>
      rw [Nat.add_zero, hself]
      exact .finite hpos hsmall hfull
    | @finite m' k' hpos' hsmall' hfull' =>
      obtain ⟨j, hle, hle', hleast⟩ : ∃ j : Nat, j ≤ k ∧ j ≤ k' ∧
          min (k - leastPlace : Int) (k' - leastPlace) = j - leastPlace :=
        ⟨min k k', Nat.min_le_left k k', Nat.min_le_right k k', by omega⟩
      have haligned : (m * 2 ^ (k - j) + m' * 2 ^ (k' - j)) * 2 ^ j = m * 2 ^ k + m' * 2 ^ k' := by
        rw [Nat.add_mul, Nat.mul_assoc, Nat.mul_assoc, ← Nat.pow_add, ← Nat.pow_add,
          Nat.sub_add_cancel hle, Nat.sub_add_cancel hle']
      have := canonical_normalize (m * 2 ^ (k - j) + m' * 2 ^ (k' - j))
        (Int.sub_add_cancel (j : Int) leastPlace)
      rw [haligned] at this
      simpa only [UnpackedFloat.add, hleast, decreaseExponent_eq hle, decreaseExponent_eq hle',
        Sign.apply, Int.natCast_add] using this

/-- A quotient has at least 53 bits if its dividend was shifted so far. -/
theorem le_log2_div {m m' s : Nat} (hpos : 0 < m) (hpos' : 0 < m')
    (hbits : m'.log2 + 53 ≤ m.log2 + s) : 52 ≤ (m * 2 ^ s / m').log2 := by
  have : 2 ^ 52 ≤ m * 2 ^ s / m' := by
    refine (Nat.le_div_iff_mul_le hpos').2 ?_
    calc 2 ^ 52 * m' ≤ 2 ^ 52 * 2 ^ (m'.log2 + 1) := Nat.mul_le_mul_left _ Nat.lt_log2_self.le
      _ = 2 ^ (m'.log2 + 53) := by ring
      _ ≤ 2 ^ (m.log2 + s) := Nat.pow_le_pow_right (by decide) hbits
      _ = 2 ^ m.log2 * 2 ^ s := Nat.pow_add ..
      _ ≤ m * 2 ^ s := Nat.mul_le_mul_right _ (Nat.log2_self_le hpos.ne')
  exact (Nat.le_log2 (by omega)).2 this

/-- A quotient is the significant part of the exact one. -/
theorem Canonical.div (hx : Canonical x v) (hy : Canonical y w) (hw : 0 < w) :
    Canonical (UnpackedFloat.div Format.binary64 x y) (significant (v * unitsInOne) w) := by
  cases hy with
  | zero s => omega
  | @finite m' k' hpos' hsmall' hfull' =>
    cases hx with
    | zero s =>
      have : significant (0 * unitsInOne) (m' * 2 ^ k') = 0 := by
        simpa using (Canonical.zero .positive).significant_mul hw
      simpa only [UnpackedFloat.div, this] using Canonical.zero _
    | @finite m k hpos hsmall hfull =>
      simp only [UnpackedFloat.div, divCore]
      generalize hplace : min (k - leastPlace - (k' - leastPlace) : Int) _ = e
      generalize shift : (k - leastPlace - (k' - leastPlace) - e : Int).toNat = s
      rw [Nat.shiftLeft_eq]
      have hfits : e ≤ Format.binary64.targetExponent (totalExponent (m * 2 ^ s / m') e) := by
        rw [targetExponent_eq, totalExponent, totalExponent] at hplace
        rw [targetExponent_eq, totalExponent]
        have hbits : e ≤ -leastPlace ∨ m'.log2 + 53 ≤ m.log2 + s := by omega
        obtain hleast | hbits := hbits
        · omega
        · have := le_log2_div hpos hpos' hbits
          omega
      have hrounded := canonical_roundWithAccuracy (a := k' + s) (b := k + leastPlace) hpos'
        (ofMantissaAndAccuracy_fraction hpos') (by omega) hfits
      have hvalue : significant (m * 2 ^ s * 2 ^ (k + leastPlace)) (m' * 2 ^ (k' + s)) =
          significant (m * 2 ^ k * unitsInOne) (m' * 2 ^ k') := by
        refine significant_congr (by positivity) hw ?_
        rw [unitsInOne]
        ring
      rwa [hvalue] at hrounded

/-- Of two canonical numbers the one with the higher place is greater. -/
theorem Canonical.lt_of_place {m m' k k' : Nat} (hsmall : m < 2 ^ 53) (hfull' : k' = 0 ∨ 2 ^ 52 ≤ m')
    (hlt : k < k') : m * 2 ^ k < m' * 2 ^ k' := by
  calc m * 2 ^ k < 2 ^ 53 * 2 ^ k := Nat.mul_lt_mul_of_pos_right hsmall (Nat.two_pow_pos k)
    _ = 2 ^ 52 * 2 ^ (k + 1) := by ring
    _ ≤ 2 ^ 52 * 2 ^ k' := Nat.mul_le_mul_left _ (Nat.pow_le_pow_right (by decide) hlt)
    _ ≤ m' * 2 ^ k' := Nat.mul_le_mul_right _ (by omega)

/-- The order of numbers in that form is the one of their numbers of units. -/
theorem Canonical.compare (hx : Canonical x v) (hy : Canonical y w) :
    UnpackedFloat.compare x y = some (Ord.compare v w) := by
  cases hx with
  | zero s =>
    cases hy with
    | zero s' => simp [UnpackedFloat.compare]
    | @finite m' k' hpos' hsmall' hfull' =>
      rw [Nat.compare_eq_lt.2 (Nat.mul_pos hpos' (Nat.two_pow_pos k'))]
      cases s <;> rfl
  | @finite m k hpos hsmall hfull =>
    cases hy with
    | zero s =>
      rw [Nat.compare_eq_gt.2 (Nat.mul_pos hpos (Nat.two_pow_pos k))]
      cases s <;> rfl
    | @finite m' k' hpos' hsmall' hfull' =>
      simp only [UnpackedFloat.compare]
      obtain hlt | rfl | hgt := Nat.lt_trichotomy k k'
      · rw [Nat.compare_eq_lt.2 (lt_of_place hsmall hfull' hlt), Int.compare_eq_lt.2 (by omega)]
        rfl
      · have hsame : Ord.compare (m * 2 ^ k) (m' * 2 ^ k) = Ord.compare m m' := by
          simp only [Nat.compare_eq_ite_lt, Nat.mul_lt_mul_right (Nat.two_pow_pos k)]
        rw [hsame, Int.compare_eq_eq.2 rfl]
        rfl
      · rw [Nat.compare_eq_gt.2 (lt_of_place hsmall' hfull hgt), Int.compare_eq_gt.2 (by omega)]
        rfl

/-- Every canonical number is below infinity. -/
theorem Canonical.compare_infinity (hx : Canonical x v) :
    UnpackedFloat.compare x (.infinity .positive) = some .lt := by
  cases hx <;> rfl

/-- Infinity is above every canonical number. -/
theorem Canonical.infinity_compare (hx : Canonical x v) :
    UnpackedFloat.compare (.infinity .positive) x = some .gt := by
  cases hx <;> rfl

/-- A canonical number other than zero times infinity is infinity. -/
theorem Canonical.mul_infinity (hx : Canonical x v) (hv : v ≠ 0) :
    UnpackedFloat.mul Format.binary64 x (.infinity .positive) = .infinity .positive := by
  cases hx with
  | zero s => exact absurd rfl hv
  | finite hpos hsmall hfull => rfl

/-- The same with the factors exchanged. -/
theorem Canonical.infinity_mul (hx : Canonical x v) (hv : v ≠ 0) :
    UnpackedFloat.mul Format.binary64 (.infinity .positive) x = .infinity .positive := by
  cases hx with
  | zero s => exact absurd rfl hv
  | finite hpos hsmall hfull => rfl

/-- A canonical number over infinity is zero. -/
theorem Canonical.div_infinity (hx : Canonical x v) :
    Canonical (UnpackedFloat.div Format.binary64 x (.infinity .positive)) 0 := by
  cases hx <;> exact .zero _

end

end BenchQueue
