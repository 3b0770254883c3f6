import BenchQueue.Proofs.Number.Units
/-!
# Doubles that are not negative

Arithmetic unpacks its operands and packs its result. A packed number is unpacked to the same one
unless it is too large and becomes infinite (`unpack_pack`), so every double that is not negative is
a number of units below a limit, or infinite. That number is what `Counts` says of it, and the order
of the doubles is the order of the numbers (`Counts.le_iff`).
-/

namespace BenchQueue

open Float.Model Float.Model.UnpackedFloat

/-! ### The exact form of unpacked numbers -/

/-- The exact form of an unpacked number. -/
def Binary64.ofUnpacked : UnpackedFloat → Binary64
  | .notANumber => .nan
  | .infinity s => .infinite (s == .negative)
  | .zero s => .finite (s == .negative) 0 (-1074)
  | .finite s m e _ => .finite (s == .negative) m e

section

variable (b : BitVec 64)

/-- The mantissa is in the low bits of a packed number. -/
theorem toNat_unpackMantissa :
    (@unpackMantissa Format.binary64 b).toNat = b.toNat % Binary64.leastNormal := by
  simp [unpackMantissa, BitVec.extractLsb, BitVec.extractLsb'_toNat]

/-- The exponent is in the eleven bits above the mantissa. -/
theorem toNat_unpackExponent :
    (@unpackExponent Format.binary64 b).toNat = b.toNat >>> 52 % 2048 := by
  simp [unpackExponent, BitVec.extractLsb, BitVec.extractLsb'_toNat]

/-- The sign bit of a negative number is set. -/
theorem ofBitVec_beq (s : BitVec 1) :
    (Sign.ofBitVec s == .negative) = decide (s.toNat = 1) := by
  revert s
  decide

/-- The sign is in the highest bit. -/
theorem toNat_unpackSign : (@unpackSign Format.binary64 b).toNat = b.toNat >>> 63 := by
  have := b.isLt
  simp [unpackSign, BitVec.extractLsb, BitVec.extractLsb'_toNat]
  omega

/-- The exact form of a double from the three fields of its bit pattern. -/
theorem Binary64.ofUnpacked_unpack {sign : BitVec 1} {exponent : BitVec 11} {fraction : BitVec 52}
    (hs : @unpackSign Format.binary64 b = sign) (he : @unpackExponent Format.binary64 b = exponent)
    (hf : @unpackMantissa Format.binary64 b = fraction) :
    ofUnpacked (UnpackedFloat.unpack Format.binary64 b) =
      if exponent.toNat = 2047 then
        if fraction.toNat = 0 then .infinite (decide (sign.toNat = 1)) else .nan
      else if exponent.toNat = 0 then .finite (decide (sign.toNat = 1)) fraction.toNat (-1074)
      else .finite (decide (sign.toNat = 1)) (leastNormal + fraction.toNat)
        ((exponent.toNat : Int) - 1075) := by
  have hbias : (Format.binary64.exponentBias + 52 : Int) = 1075 := by decide
  have hspecial : exponent = -1#11 ↔ exponent.toNat = 2047 := BitVec.toNat_inj.symm
  have hleast : exponent = 0#11 ↔ exponent.toNat = 0 := BitVec.toNat_inj.symm
  have hnothing : fraction = 0#52 ↔ fraction.toNat = 0 := BitVec.toNat_inj.symm
  have hfull : (1#1 ++ fraction).toNat = leastNormal + fraction.toNat := by
    rw [BitVec.toNat_append, ← Nat.shiftLeft_add_eq_or_of_lt fraction.isLt]
    rfl
  subst hs he hf
  simp only [UnpackedFloat.unpack, hspecial, hleast, hnothing]
  split
  · split <;> simp only [ofUnpacked, ofBitVec_beq]
  · split
    case isTrue hzero =>
      split
      case isTrue hempty => simp only [ofUnpacked, ofBitVec_beq, hempty]
      case isFalse =>
        simp only [ofUnpacked, ofBitVec_beq, hzero]
        rfl
    case isFalse => simp only [ofUnpacked, ofBitVec_beq, hfull, ← hbias]; rfl

/-- A double has the exact form of the number that arithmetic unpacks it to. -/
theorem Binary64.ofBits_eq (hbits : UInt64) :
    Binary64.ofBits hbits =
      ofUnpacked (UnpackedFloat.unpack Format.binary64 hbits.toBitVec) := by
  rw [ofUnpacked_unpack _ rfl rfl rfl, toNat_unpackExponent, toNat_unpackMantissa,
    toNat_unpackSign]
  rfl

end

/-- An unpacked number is determined by its exact form. -/
theorem Binary64.ofUnpacked_injective : Function.Injective Binary64.ofUnpacked := by
  intro x y h
  have hsigns : ∀ s s' : Sign, (s == .negative) = (s' == .negative) → s = s' := by
    rintro (- | -) (- | -) hsame <;> first | rfl | exact absurd hsame (by decide)
  cases x <;> cases y <;> simp only [ofUnpacked, Binary64.infinite.injEq, Binary64.finite.injEq,
    reduceCtorEq] at h
  case infinity.infinity => rw [hsigns _ _ h]
  case notANumber.notANumber => rfl
  case zero.zero => rw [hsigns _ _ h.1]
  case zero.finite m _ hpos => omega
  case finite.zero m _ hpos => omega
  case finite.finite =>
    obtain ⟨hsign, rfl, rfl⟩ := h
    rw [hsigns _ _ hsign]

/-- The quotient of an exact form is its number of units over the units in one. -/
theorem Binary64.ratio_units (m k : Nat) :
    0 < (ratio m (k - leastPlace)).2 ∧
      (ratio m (k - leastPlace)).1 * unitsInOne =
        m * 2 ^ k * (ratio m (k - leastPlace)).2 := by
  simp only [ratio, unitsInOne]
  split
  case isTrue hwhole =>
    have hplace : (k - leastPlace : Int).toNat + leastPlace = k := by omega
    rw [Nat.shiftLeft_eq, Nat.mul_assoc, ← Nat.pow_add, hplace, Nat.mul_one]
    exact ⟨Nat.one_pos, rfl⟩
  case isFalse hpart =>
    have hplace : k + (-(k - leastPlace : Int)).toNat = leastPlace := by omega
    rw [Nat.shiftLeft_eq, Nat.one_mul, Nat.mul_assoc, ← Nat.pow_add, hplace]
    exact ⟨Nat.two_pow_pos _, rfl⟩

/-! ### Packing -/

/-- The sign is read back from a packed number. -/
theorem unpackSign_packComponents {spec : Format} {sign exponent mantissa} :
    unpackSign (packComponents spec sign exponent mantissa) = sign.toBitVec := by
  ext i hi
  obtain rfl : i = 0 := by omega
  simp [unpackSign, packComponents, BitVec.getLsbD_append, BitVec.getElem_append]

/-- The last bit of a finite double is at a place below this one. -/
def placeLimit : Nat := 2046

/-- The last bit of the number one is at a place below the limit. -/
theorem leastPlace_lt : leastPlace < placeLimit := by
  rw [leastPlace, placeLimit]
  decide

/-- Finite doubles have fewer units. -/
def unitLimit : Nat := 2 ^ 52 * 2 ^ placeLimit

/-- There is a finite double. -/
theorem unitLimit_pos : 0 < unitLimit := Nat.mul_pos (Nat.two_pow_pos _) (Nat.two_pow_pos _)

/-- A canonical number is finite exactly if its last place is. -/
theorem lt_unitLimit_iff {m k : Nat} (hsmall : m < 2 ^ 53) (hfull : k = 0 ∨ 2 ^ 52 ≤ m) :
    m * 2 ^ k < unitLimit ↔ k < placeLimit := by
  refine ⟨fun hbelow => Nat.lt_of_not_ge fun habove => ?_, fun hbelow => ?_⟩
  · have : 2 ^ 52 ≤ m := hfull.resolve_left (by unfold placeLimit at habove; omega)
    exact Nat.not_le.2 hbelow (Nat.mul_le_mul this (Nat.pow_le_pow_right Nat.two_pos habove))
  · exact Canonical.lt_of_place hsmall (.inr le_rfl) hbelow

/-- The exact form of packed components depends on the exponent only: the greatest one means an
infinity or no number, the least one a number without a leading bit. -/
theorem ofUnpacked_packComponents (sign : Sign) (exponent : BitVec 11) (fraction : BitVec 52) :
    Binary64.ofUnpacked (UnpackedFloat.unpack Format.binary64
      (packComponents Format.binary64 sign exponent fraction)) =
      if exponent.toNat = 2047 then
        if fraction.toNat = 0 then .infinite (sign == .negative) else .nan
      else if exponent.toNat = 0 then .finite (sign == .negative) fraction.toNat (-1074)
      else .finite (sign == .negative) (Binary64.leastNormal + fraction.toNat)
        ((exponent.toNat : Int) - 1075) := by
  have hnegative : (sign == .negative) = decide (sign.toBitVec.toNat = 1) := by cases sign <;> rfl
  rw [hnegative]
  exact Binary64.ofUnpacked_unpack _ unpackSign_packComponents unpackExponent_packComponents
    unpackMantissa_packComponents

/-- A canonical number is packed as infinity if its place is too high, and otherwise with or without
its leading bit. -/
theorem pack_finite {m k : Nat} (s : Sign) (hpos : 0 < m) :
    UnpackedFloat.pack Format.binary64 (.finite s m (k - leastPlace) hpos) =
      if placeLimit ≤ k then packedInfinity Format.binary64 s
      else if m.log2 + 1 = 53 then
        packComponents Format.binary64 s (BitVec.ofNat 11 (k + 1)) (BitVec.ofNat 52 m)
      else packComponents Format.binary64 s 0#11 (BitVec.ofNat 52 m) := by
  have hbias : Format.binary64.exponentBias = 1023 := by decide
  have hbiased : (k - leastPlace + Format.binary64.exponentBias + (52 : Nat) : Int).toNat =
      k + 1 := by
    simp only [hbias, leastPlace]
    omega
  have habove : 2 ^ 11 ≤ k + 1 + 1 ↔ placeLimit ≤ k := by
    rw [placeLimit]
    omega
  simp only [UnpackedFloat.pack, hbiased, habove]
  rfl

/-- A canonical number below the limit is unpacked to itself. -/
theorem unpack_pack_finite {m k : Nat} (s : Sign) (hpos : 0 < m) (hsmall : m < 2 ^ 53)
    (hfull : k = 0 ∨ 2 ^ 52 ≤ m) (hbelow : k < placeLimit) :
    UnpackedFloat.unpack Format.binary64
      (UnpackedFloat.pack Format.binary64 (.finite s m (k - leastPlace) hpos)) =
      .finite s m (k - leastPlace) hpos := by
  have hbits : m.log2 < 53 := (Nat.log2_lt hpos.ne').2 hsmall
  apply Binary64.ofUnpacked_injective
  rw [pack_finite, if_neg (Nat.not_le.2 hbelow), Binary64.ofUnpacked]
  rw [placeLimit] at hbelow
  split
  case isTrue hwhole =>
    -- the leading bit is left out of the fraction
    have hge : 2 ^ 52 ≤ m := (Nat.le_log2 hpos.ne').1 (by omega)
    have hexponent : (k + 1) % 2 ^ 11 = k + 1 := Nat.mod_eq_of_lt (by omega)
    have hfraction : m % 2 ^ 52 = m - 2 ^ 52 := by omega
    simp only [ofUnpacked_packComponents, BitVec.toNat_ofNat, hexponent, hfraction]
    rw [if_neg (by omega), if_neg (by omega), Binary64.finite.injEq]
    exact ⟨rfl, by simp only [Binary64.leastNormal]; omega, by simp only [leastPlace]; omega⟩
  case isFalse hpart =>
    have hlt : m < 2 ^ 52 := (Nat.log2_lt hpos.ne').1 (by omega)
    obtain rfl : k = 0 := hfull.resolve_right (by omega)
    have hfraction : m % 2 ^ 52 = m := Nat.mod_eq_of_lt hlt
    simp only [ofUnpacked_packComponents, BitVec.toNat_ofNat, hfraction, leastPlace]
    rfl

/-- Infinity is unpacked to itself. -/
theorem unpack_packedInfinity :
    UnpackedFloat.unpack Format.binary64 (packedInfinity Format.binary64 .positive) =
      .infinity .positive := rfl

/-- Packing keeps a number in the form that arithmetic rounds to, unless it is too large. -/
theorem unpack_pack {x : Float.Model.UnpackedFloat} {v : Nat} (h : Canonical x v) :
    UnpackedFloat.unpack Format.binary64 (UnpackedFloat.pack Format.binary64 x) =
      if v < unitLimit then x else .infinity .positive := by
  cases h with
  | zero s =>
    rw [if_pos unitLimit_pos]
    cases s <;> rfl
  | @finite m k hpos hsmall hfull =>
    simp only [lt_unitLimit_iff hsmall hfull]
    split
    case isTrue hbelow => exact unpack_pack_finite .positive hpos hsmall hfull hbelow
    case isFalse habove => rw [pack_finite, if_pos (Nat.not_lt.1 habove), unpack_packedInfinity]

/-- A positive number that is unpacked is in the form that arithmetic rounds to. -/
theorem unpack_finite {b : BitVec 64} {m : Nat} {e : Int} {hpos : 0 < m}
    (h : UnpackedFloat.unpack Format.binary64 b = .finite .positive m e hpos) :
    ∃ k < placeLimit, e = k - leastPlace ∧ m < 2 ^ 53 ∧ (k = 0 ∨ 2 ^ 52 ≤ m) := by
  have hparts := Binary64.ofUnpacked_unpack b rfl rfl rfl
  rw [h] at hparts
  have hfraction : (@unpackMantissa Format.binary64 b).toNat < 2 ^ 52 := BitVec.isLt _
  have hexponent : (@unpackExponent Format.binary64 b).toNat < 2 ^ 11 := BitVec.isLt _
  generalize (@unpackExponent Format.binary64 b).toNat = biased at hparts hexponent
  rw [Binary64.ofUnpacked] at hparts
  split at hparts
  · split at hparts <;> cases hparts
  split at hparts
  · rw [Binary64.finite.injEq] at hparts
    exact ⟨0, by decide, by simp only [leastPlace]; omega, by omega, .inl rfl⟩
  · rw [Binary64.finite.injEq, Binary64.leastNormal] at hparts
    refine ⟨biased - 1, ?_, ?_, by omega, .inr (by omega)⟩
    · simp only [placeLimit]
      omega
    · simp only [leastPlace]
      omega

/-! ### Numbers of units -/

/-- The number of units of a double that is not negative; it may be infinite. -/
inductive Counts (x : Float) : ℕ∞ → Prop
  | finite {v : Nat} (hcanonical : Canonical x.toModel.unpack v) (hbelow : v < unitLimit) : Counts x v
  | infinite (hsame : x.toModel.unpack = .infinity .positive) : Counts x ⊤

/-- A rounded number of units, infinite if there is no finite double as large. -/
def capped (v : Nat) : ℕ∞ := if v < unitLimit then v else ⊤

/-- A number of units below the limit is not capped. -/
theorem capped_of_lt {v : Nat} (h : v < unitLimit) : capped v = v := if_pos h

/-- Capping keeps the order. -/
theorem capped_mono {v w : Nat} (h : v ≤ w) : capped v ≤ capped w := by
  unfold capped
  split
  · split
    · exact Nat.cast_le.2 h
    · exact le_top
  · rw [if_neg (by omega)]

/-- A packed number has its units, or is infinite. -/
theorem counts_pack {x : Float.Model.UnpackedFloat} {v : Nat} (h : Canonical x v) :
    Counts (.ofModel (.pack x)) (capped v) := by
  have hunpacked : (Float.Model.pack x).unpack = _ := unpack_pack h
  unfold capped
  split
  case isTrue hbelow =>
    rw [if_pos hbelow] at hunpacked
    exact .finite (by rwa [hunpacked]) hbelow
  case isFalse habove =>
    rw [if_neg habove] at hunpacked
    exact .infinite hunpacked

/-- Zero has no units. -/
theorem counts_zero : Counts 0.0 0 := .finite (.zero .positive) unitLimit_pos

/-- One has the units of one. -/
theorem counts_one : Counts 1.0 unitsInOne := by
  obtain ⟨k, hplace⟩ : ∃ k, leastPlace = 52 + k := ⟨1022, by rw [leastPlace]⟩
  have hunpacked : (1.0 : Float).toModel.unpack = .finite .positive (2 ^ 52) (-52) (by decide) := rfl
  have hexponent : (-52 : Int) = k - leastPlace := by omega
  have hunits : unitsInOne = 2 ^ 52 * 2 ^ k := by rw [unitsInOne, hplace, Nat.pow_add]
  have hbelow : k < placeLimit := by simp only [leastPlace, placeLimit] at hplace ⊢; omega
  rw [hunits]
  refine .finite ?_ ((lt_unitLimit_iff (by decide) (.inr le_rfl)).2 hbelow)
  rw [hunpacked]
  simpa only [hexponent] using .finite (k := k) (by decide) (by decide) (.inr le_rfl)

/-- A whole number of at most 53 bits is finite. -/
theorem lt_unitLimit {m : Nat} (h : m < 2 ^ 53) : m * unitsInOne < unitLimit :=
  Canonical.lt_of_place h (.inr le_rfl) leastPlace_lt

/-- A double is at most another one if their unpacked forms compare so. -/
theorem le_iff_compare (x y : Float) :
    x ≤ y ↔ (UnpackedFloat.compare x.toModel.unpack y.toModel.unpack).any (·.isLE) = true :=
  decide_eq_true_iff

/-- A double is below another one if their unpacked forms compare so. -/
theorem lt_iff_compare (x y : Float) :
    x < y ↔ UnpackedFloat.compare x.toModel.unpack y.toModel.unpack = some .lt :=
  decide_eq_true_iff.trans beq_iff_eq

/-- A double that compares equal to zero is a zero of either sign. -/
theorem not_pos_of_beq_zero {x : Float} (h : (x == 0.0) = true) : ¬ 0.0 < x := by
  have hequal : UnpackedFloat.compare x.toModel.unpack (.zero .positive) = some .eq :=
    beq_iff_eq.1 h
  rw [lt_iff_compare]
  change ¬ UnpackedFloat.compare (.zero .positive) x.toModel.unpack = some .lt
  generalize x.toModel.unpack = u at hequal ⊢
  rcases u with (- | -) | - | s | ⟨- | -, m, e, hpos⟩
  case zero => nofun
  all_goals cases hequal

section

variable {x y : Float} {v w : ℕ∞}

/-- A double above one that is not negative is not negative. -/
theorem Counts.exists_of_le (hx : Counts x v) (h : x ≤ y) : ∃ w, Counts y w := by
  rw [le_iff_compare] at h
  have hform : (∃ v, Canonical x.toModel.unpack v) ∨ x.toModel.unpack = .infinity .positive := by
    cases hx with
    | finite hcanonical _ => exact .inl ⟨_, hcanonical⟩
    | infinite hsame => exact .inr hsame
  generalize x.toModel.unpack = u at h hform
  rcases hunpacked : y.toModel.unpack with (- | -) | - | s | ⟨- | -, m, e, hpos⟩
  all_goals rw [hunpacked] at h
  case infinity.positive => exact ⟨⊤, .infinite hunpacked⟩
  case zero => exact ⟨0, .finite (hunpacked ▸ .zero s) unitLimit_pos⟩
  case finite.positive =>
    obtain ⟨k, hplace, rfl, hsmall, hfull⟩ := unpack_finite hunpacked
    exact ⟨_, .finite (hunpacked ▸ .finite hpos hsmall hfull) ((lt_unitLimit_iff hsmall hfull).2 hplace)⟩
  -- nothing of the other forms is above zero
  all_goals rcases hform with ⟨_, ⟨⟩⟩ | rfl <;> cases h

/-- The unpacked forms of doubles compare as their units do. -/
theorem Counts.compare (hx : Counts x v) (hy : Counts y w) :
    ∃ o, UnpackedFloat.compare x.toModel.unpack y.toModel.unpack = some o ∧ o.Compares v w := by
  cases hx with
  | @finite v cx _ =>
    cases hy with
    | @finite w cy _ =>
      refine ⟨_, cx.compare cy, ?_⟩
      obtain hlt | rfl | hgt := lt_trichotomy v w
      · rw [Nat.compare_eq_lt.2 hlt]
        exact Nat.cast_lt.2 hlt
      · rw [Nat.compare_eq_eq.2 rfl]
        rfl
      · rw [Nat.compare_eq_gt.2 hgt]
        exact Nat.cast_lt.2 hgt
    | infinite hsame => exact ⟨.lt, by rw [hsame, cx.compare_infinity], ENat.natCast_lt_top _⟩
  | infinite hsame =>
    cases hy with
    | finite cy _ => exact ⟨.gt, by rw [hsame, cy.infinity_compare], ENat.natCast_lt_top _⟩
    | infinite hsame' => exact ⟨.eq, by rw [hsame, hsame']; rfl, rfl⟩

/-- The order of doubles that are not negative is the one of their numbers of units. -/
theorem Counts.le_iff (hx : Counts x v) (hy : Counts y w) : x ≤ y ↔ v ≤ w := by
  obtain ⟨o, ho, hcompares⟩ := hx.compare hy
  rw [le_iff_compare, ho, ← hcompares.ne_gt]
  cases o <;> simp

/-- Doubles that are not below zero are ordered as their units are. -/
theorem Counts.lt_iff (hx : Counts x v) (hy : Counts y w) : x < y ↔ v < w := by
  obtain ⟨o, ho, hcompares⟩ := hx.compare hy
  rw [lt_iff_compare, ho, ← hcompares.eq_lt, Option.some_inj]

/-- What has units is a number. -/
theorem Counts.not_isNaN (hx : Counts x v) : x.isNaN = false := by
  change x.toModel.unpack.isNaN = false
  cases hx with
  | finite hcanonical _ =>
    generalize x.toModel.unpack = u at hcanonical
    cases hcanonical <;> rfl
  | infinite hsame =>
    rw [hsame]
    rfl

end

end BenchQueue
