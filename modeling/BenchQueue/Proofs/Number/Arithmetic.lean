import BenchQueue.Proofs.Number.Doubles
/-!
# Arithmetic on doubles keeps their order

The units of a result are a monotone function of the units of the operands, since rounding and
packing are. So the product of doubles that are not below one grows with both of them
(`Double.mul_le_mul`), and the reciprocal of one shrinks as it grows (`Double.one_div_le_one_div`).
Infinite operands are included; the hypotheses leave out only what is no number.
-/

namespace BenchQueue

open Float.Model Float.Model.UnpackedFloat

/-! ### Operations on numbers of units -/

/-- The units of a product. -/
def product : ℕ∞ → ℕ∞ → ℕ∞
  | (v : Nat), (w : Nat) => capped (significant (v * w) unitsInOne)
  | _, _ => ⊤

/-- The units of a quotient, the dividend being finite. -/
def quotient (v : Nat) : ℕ∞ → ℕ∞
  | (w : Nat) => capped (significant (v * unitsInOne) w)
  | ⊤ => 0

/-- The packed infinity has infinitely many units. -/
theorem counts_pack_infinity : Counts (.ofModel (.pack (.infinity .positive))) ⊤ := .infinite rfl

/-- A product with an infinite factor is infinite. -/
theorem product_top (v : ℕ∞) : product v ⊤ = ⊤ := by
  cases v <;> rfl

/-- The same for the first factor. -/
theorem top_product (w : ℕ∞) : product ⊤ w = ⊤ := rfl

section

variable {x y : Float} {v w : ℕ∞}

/-- A product of doubles has the rounded product of their units, unless a zero meets an infinity. -/
theorem Counts.mul (hx : Counts x v) (hy : Counts y w) (hv : v = 0 → w ≠ ⊤)
    (hw : w = 0 → v ≠ ⊤) : Counts (x * y) (product v w) := by
  have hpacked : x * y = .ofModel (.pack
    (UnpackedFloat.mul Format.binary64 x.toModel.unpack y.toModel.unpack)) := rfl
  rw [hpacked]
  cases hx with
  | @finite v cx _ =>
    cases hy with
    | @finite w cy _ => exact counts_pack (cx.mul cy)
    | infinite hsame =>
      rw [hsame, cx.mul_infinity (by rintro rfl; exact hv rfl rfl), product_top]
      exact counts_pack_infinity
  | infinite hsame =>
    rw [hsame, top_product]
    cases hy with
    | @finite w cy _ =>
      rw [cy.infinity_mul (by rintro rfl; exact hw rfl rfl)]
      exact counts_pack_infinity
    | infinite same' =>
      rw [same']
      exact counts_pack_infinity

/-- In particular the product of doubles that are positive. -/
theorem Counts.mul_of_pos (hx : Counts x v) (hy : Counts y w) (hv : 0 < v) (hw : 0 < w) :
    Counts (x * y) (product v w) :=
  hx.mul hy (fun hzero => absurd hzero hv.ne') (fun hzero => absurd hzero hw.ne')

/-- A quotient of doubles has the rounded quotient of their units, if the divisor is positive. -/
theorem Counts.div {v : Nat} (hx : Counts x v) (hy : Counts y w) (hw : 0 < w) :
    Counts (x / y) (quotient v w) := by
  have hpacked : x / y = .ofModel (.pack
    (UnpackedFloat.div Format.binary64 x.toModel.unpack y.toModel.unpack)) := rfl
  rw [hpacked]
  cases hx with
  | finite cx _ =>
    cases hy with
    | finite cy _ => exact counts_pack (cx.div cy (Nat.cast_pos.1 hw))
    | infinite hsame =>
      have hzero : quotient v ⊤ = capped 0 := (capped_of_lt unitLimit_pos).symm
      rw [hsame, hzero]
      exact counts_pack cx.div_infinity

/-- A sum of doubles has the rounded sum of their units. -/
theorem Counts.add {v w : Nat} (hx : Counts x v) (hy : Counts y w) :
    Counts (x + y) (capped (significant (v + w) 1)) := by
  have hpacked : x + y = .ofModel (.pack
    (UnpackedFloat.add Format.binary64 x.toModel.unpack y.toModel.unpack)) := rfl
  rw [hpacked]
  cases hx with
  | finite cx _ =>
    cases hy with
    | finite cy _ => exact counts_pack (cx.add cy)

/-- A whole number of 64 bits is converted to the nearest double. -/
theorem counts_toFloat (n : UInt64) :
    Counts n.toFloat (capped (significant (n.toNat * unitsInOne) 1)) :=
  counts_pack (canonical_normalize n.toNat (Int.zero_add _))

/-- A small whole number is a double. -/
theorem counts_toFloat_of_lt {n : UInt64} (h : n.toNat < 2 ^ 53) :
    Counts n.toFloat (n.toNat * unitsInOne : Nat) := by
  have hself : significant (n.toNat * unitsInOne) 1 = n.toNat * unitsInOne := by
    simpa [unitsInOne] using significant_mul h leastPlace Nat.one_pos
  have hcount := counts_toFloat n
  rwa [hself, capped_of_lt (lt_unitLimit h)] at hcount

/-- The units of a double times one. -/
theorem Counts.one_product (hx : Counts x v) : product unitsInOne v = v := by
  cases hx with
  | finite hcanonical hbelow =>
    have hself := hcanonical.significant_mul unitsInOne_pos
    rw [Nat.mul_comm] at hself
    exact (congrArg capped hself).trans (capped_of_lt hbelow)
  | infinite => rfl

/-- A product does not decrease when its factors grow. -/
theorem product_mono {v v' w w' : ℕ∞} (hv : v ≤ v') (hw : w ≤ w') :
    product v w ≤ product v' w' := by
  induction v' with
  | top => exact le_top
  | coe v' =>
    induction w' with
    | top => exact product_top v' ▸ le_top
    | coe w' =>
      lift v to Nat using ne_top_of_le_ne_top (ENat.natCast_ne_top _) hv
      lift w to Nat using ne_top_of_le_ne_top (ENat.natCast_ne_top _) hw
      rw [Nat.cast_le] at hv hw
      refine capped_mono (significant_mono unitsInOne_pos unitsInOne_pos ?_)
      exact Nat.mul_le_mul_right _ (Nat.mul_le_mul hv hw)

/-- A quotient does not increase when its divisor grows. -/
theorem quotient_anti (v : Nat) {w w' : ℕ∞} (hpos : 0 < w) (hw : w ≤ w') :
    quotient v w' ≤ quotient v w := by
  induction w' with
  | top => exact bot_le
  | coe w' =>
    lift w to Nat using ne_top_of_le_ne_top (ENat.natCast_ne_top _) hw
    rw [Nat.cast_le] at hw
    have hpos := Nat.cast_pos.1 hpos
    refine capped_mono (significant_mono (hpos.trans_le hw) hpos ?_)
    exact Nat.mul_le_mul_left _ hw

end

/-! ### The order of results -/

namespace Double

variable {x x' y y' z : Float}

/-- A double that is not below zero is a number of units. -/
theorem counts_of_nonneg (hx : 0.0 ≤ x) : ∃ v, Counts x v := counts_zero.exists_of_le hx

/-- A double that is not below zero is at most itself, as not a number is not. -/
theorem le_refl (hx : 0.0 ≤ x) : x ≤ x := by
  obtain ⟨v, hv⟩ := counts_of_nonneg hx
  exact (hv.le_iff hv).2 le_rfl

/-- The order of doubles that are not below zero is transitive. -/
theorem le_trans (hx : 0.0 ≤ x) (hxy : x ≤ y) (hyz : y ≤ z) : x ≤ z := by
  obtain ⟨v, hv⟩ := counts_of_nonneg hx
  obtain ⟨w, hw⟩ := hv.exists_of_le hxy
  obtain ⟨u, hu⟩ := hw.exists_of_le hyz
  exact (hv.le_iff hu).2 (((hv.le_iff hw).1 hxy).trans ((hw.le_iff hu).1 hyz))

/-- Zero is at most zero. -/
theorem zero_le_zero : (0.0 : Float) ≤ 0.0 := by decide +kernel

/-- Zero is at most one. -/
theorem zero_le_one : (0.0 : Float) ≤ 1.0 := by decide +kernel

/-- One is at most one. -/
theorem one_le_one : (1.0 : Float) ≤ 1.0 := by decide +kernel

/-- Two doubles in order, the first one at least one, are positive numbers of units in order. -/
theorem counts_of_one_le (hx : 1.0 ≤ x) (h : x ≤ x') :
    ∃ v v', Counts x v ∧ Counts x' v' ∧ 0 < v ∧ v ≤ v' := by
  obtain ⟨v, hv⟩ := counts_one.exists_of_le hx
  obtain ⟨v', hv'⟩ := hv.exists_of_le h
  have hpos : (0 : ℕ∞) < unitsInOne := Nat.cast_pos.2 unitsInOne_pos
  exact ⟨v, v', hv, hv', hpos.trans_le ((counts_one.le_iff hv).1 hx), (hv.le_iff hv').1 h⟩

/-- What is at least one is not below zero. -/
theorem nonneg_of_one_le (hx : 1.0 ≤ x) : 0.0 ≤ x := le_trans zero_le_zero zero_le_one hx

/-- What is at least one is at most itself. -/
theorem refl_of_one_le (hx : 1.0 ≤ x) : x ≤ x := le_refl (nonneg_of_one_le hx)

/-- A product of doubles that are not below one grows with both. -/
theorem mul_le_mul (hx : 1.0 ≤ x) (hxx' : x ≤ x') (hy : 1.0 ≤ y) (hyy' : y ≤ y') :
    x * y ≤ x' * y' := by
  obtain ⟨v, v', hv, hv', hposv, hlev⟩ := counts_of_one_le hx hxx'
  obtain ⟨w, w', hw, hw', hposw, hlew⟩ := counts_of_one_le hy hyy'
  have hleft := hv.mul_of_pos hw hposv hposw
  have hright := hv'.mul_of_pos hw' (hposv.trans_le hlev) (hposw.trans_le hlew)
  exact (hleft.le_iff hright).2 (product_mono hlev hlew)

/-- A double that is at least one does not decrease when it is multiplied by one. -/
theorem le_one_mul (hx : 1.0 ≤ x) : x ≤ 1.0 * x := by
  obtain ⟨v, w, hv, hw, hpos, hle⟩ := counts_of_one_le one_le_one hx
  have hself := counts_one.mul_of_pos hw (Nat.cast_pos.2 unitsInOne_pos) (hpos.trans_le hle)
  rw [hw.one_product] at hself
  exact (hw.le_iff hself).2 le_rfl

/-- The product of doubles that are at least one is at least one. -/
theorem one_le_mul (hx : 1.0 ≤ x) (hy : 1.0 ≤ y) : 1.0 ≤ x * y :=
  le_trans zero_le_one (le_one_mul one_le_one) (mul_le_mul one_le_one hx one_le_one hy)

/-- A reciprocal of a double that is not below one shrinks as the double grows. -/
theorem one_div_le_one_div (hx : 1.0 ≤ x) (hxy : x ≤ y) : 0.0 ≤ 1.0 / y ∧ 1.0 / y ≤ 1.0 / x := by
  obtain ⟨v, w, hv, hw, hpos, hle⟩ := counts_of_one_le hx hxy
  have hleft := counts_one.div hw (hpos.trans_le hle)
  have hright := counts_one.div hv hpos
  exact ⟨(counts_zero.le_iff hleft).2 bot_le, (hleft.le_iff hright).2 (quotient_anti _ hpos hle)⟩

/-- The inverse of a double that is at least one is not below zero. -/
theorem one_div_nonneg (hx : 1.0 ≤ x) : 0.0 ≤ 1.0 / x :=
  (one_div_le_one_div hx (refl_of_one_le hx)).1

/-- The inverse of a double that is at least one is at most one. -/
theorem one_div_le_one (hx : 1.0 ≤ x) : 1.0 / x ≤ 1.0 := by
  have hself : (1.0 / 1.0 : Float) ≤ 1.0 := by decide +kernel
  exact le_trans (one_div_nonneg hx) (one_div_le_one_div one_le_one hx).2 hself

end Double

end BenchQueue
