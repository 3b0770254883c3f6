import Mathlib.Data.Nat.Log
import Mathlib.Tactic.Ring
import Mathlib.Tactic.Linarith
import BenchQueue.Number.Binary64
/-!
# Rounding of quotients

Arithmetic on doubles rounds an exact quotient of naturals twice over: to so many whole units, and
of these to the leading 53 bits. Quotients are compared by cross multiplication here, so that
nothing depends on how one is written: `roundHalfEven_mono` is about the nearest whole number, a tie
to the even one, and `significant_mono` about the nearest number of at most 53 significant bits. A
number that has no more bits than that is its own rounding (`significant_mul`).
-/

namespace BenchQueue

/-! ### To whole numbers -/

/-- A whole number is below the nearest one of a quotient exactly when it is at most a half above
the quotient, and even if it is a half above. -/
theorem le_roundHalfEven_iff {n d : Nat} (hd : 0 < d) (r : Nat) :
    r ≤ roundHalfEven n d ↔
      2 * (r * d) < 2 * n + d ∨ 2 * (r * d) = 2 * n + d ∧ r % 2 = 0 := by
  have hsplit : n = n / d * d + n % d := (Nat.div_add_mod' n d).symm
  have hsmall : n % d < d := Nat.mod_lt n hd
  simp only [roundHalfEven]
  generalize n / d = q, n % d = m at hsplit hsmall
  obtain hbelow | rfl | habove : r ≤ q ∨ r = q + 1 ∨ q + 2 ≤ r := by omega
  · have := Nat.mul_le_mul_right d hbelow
    grind
  · have : (q + 1) * d = q * d + d := Nat.succ_mul q d
    grind
  · have := Nat.mul_le_mul_right d habove
    have : (q + 2) * d = q * d + 2 * d := Nat.add_mul q 2 d
    grind

/-- A smaller quotient has no larger nearest whole number. -/
theorem roundHalfEven_mono {n d n' d' : Nat} (hd : 0 < d) (hd' : 0 < d')
    (h : n * d' ≤ n' * d) : roundHalfEven n d ≤ roundHalfEven n' d' := by
  refine (le_roundHalfEven_iff hd' _).2 ?_
  have hle := (le_roundHalfEven_iff hd _).1 (Nat.le_refl (roundHalfEven n d))
  generalize roundHalfEven n d = r at hle ⊢
  -- both sides times the other denominator
  have hleft : 2 * (r * d) * d' = 2 * (r * d') * d := by ring
  have hright : (2 * n + d) * d' ≤ (2 * n' + d') * d := by nlinarith
  obtain hlt | ⟨heq, heven⟩ := hle
  · refine .inl (Nat.lt_of_mul_lt_mul_right (a := d) ?_)
    have := Nat.mul_lt_mul_of_pos_right hlt hd'
    omega
  · have : 2 * (r * d') ≤ 2 * n' + d' := by
      refine Nat.le_of_mul_le_mul_right ?_ hd
      rw [heq] at hleft
      omega
    exact (Nat.lt_or_eq_of_le this).imp id fun hsame => ⟨hsame, heven⟩

/-- The nearest whole number depends on the quotient alone. -/
theorem roundHalfEven_congr {n d n' d' : Nat} (hd : 0 < d) (hd' : 0 < d')
    (h : n * d' = n' * d) : roundHalfEven n d = roundHalfEven n' d' :=
  Nat.le_antisymm (roundHalfEven_mono hd hd' h.le) (roundHalfEven_mono hd' hd h.ge)

/-- A quotient without a remainder is exact. -/
theorem roundHalfEven_mul (r : Nat) {d : Nat} (hd : 0 < d) : roundHalfEven (r * d) d = r := by
  simp [roundHalfEven, Nat.mul_div_cancel r hd, hd]

/-- Rounding does not exceed a whole number that the quotient does not exceed. -/
theorem roundHalfEven_le {n d r : Nat} (hd : 0 < d) (h : n ≤ r * d) : roundHalfEven n d ≤ r := by
  simpa [roundHalfEven_mul r hd] using roundHalfEven_mono hd hd (Nat.mul_le_mul_right d h)

/-- Rounding does not fall below a whole number that the quotient does not fall below. -/
theorem le_roundHalfEven {n d r : Nat} (hd : 0 < d) (h : r * d ≤ n) : r ≤ roundHalfEven n d := by
  simpa [roundHalfEven_mul r hd] using roundHalfEven_mono hd hd (Nat.mul_le_mul_right d h)

/-! ### To significant bits -/

/-- The number of low bits of a whole number beyond its leading 53. -/
def excess (m : Nat) : Nat := m.log2 - 52

/-- A greater number has at least as many low bits. -/
theorem excess_mono {m m' : Nat} (h : m ≤ m') : excess m ≤ excess m' := by
  have := Nat.log_mono_right (b := 2) h
  simp only [excess, Nat.log2_eq_log_two]
  omega

/-- A number has at most 53 bits above the low ones. -/
theorem lt_of_excess {m : Nat} : m < 2 ^ 53 * 2 ^ excess m := by
  have hbelow : m < 2 ^ (m.log2 + 1) := Nat.lt_log2_self
  have : 2 ^ (m.log2 + 1) ≤ 2 ^ (53 + excess m) :=
    Nat.pow_le_pow_right (by decide) (by simp only [excess]; omega)
  rw [← Nat.pow_add]
  omega

/-- If there are low bits, there are 53 bits above them. -/
theorem le_of_excess {m : Nat} (h : 0 < excess m) : 2 ^ 52 * 2 ^ excess m ≤ m := by
  have hnonzero : m ≠ 0 := by rintro rfl; simp [excess] at h
  have : 52 + excess m = m.log2 := by simp only [excess] at h ⊢; omega
  rw [← Nat.pow_add, this]
  exact Nat.log2_self_le hnonzero

/-- The nearest number to a quotient that has at most 53 significant bits. -/
def significant (n d : Nat) : Nat :=
  roundHalfEven n (d * 2 ^ excess (n / d)) * 2 ^ excess (n / d)

section

variable {n d n' d' : Nat}

/-- The rounded leading part of a quotient has at most 53 bits, or is the power of two above them.
-/
theorem leading_le (hd : 0 < d) : roundHalfEven n (d * 2 ^ excess (n / d)) ≤ 2 ^ 53 := by
  refine roundHalfEven_le (Nat.mul_pos hd (Nat.two_pow_pos _)) ?_
  have := (Nat.div_lt_iff_lt_mul hd).1 (lt_of_excess (m := n / d))
  linarith

/-- If low bits are dropped, the rounded leading part has 53 bits. -/
theorem le_leading (hd : 0 < d) (h : 0 < excess (n / d)) :
    2 ^ 52 ≤ roundHalfEven n (d * 2 ^ excess (n / d)) := by
  refine le_roundHalfEven (Nat.mul_pos hd (Nat.two_pow_pos _)) ?_
  have := (Nat.le_div_iff_mul_le hd).1 (le_of_excess h)
  linarith

/-- A smaller quotient is rounded to no larger a number. -/
theorem significant_mono (hd : 0 < d) (hd' : 0 < d') (h : n * d' ≤ n' * d) :
    significant n d ≤ significant n' d' := by
  have hwhole : n / d ≤ n' / d' := by
    refine (Nat.le_div_iff_mul_le hd').2 (Nat.le_of_mul_le_mul_right ?_ hd)
    calc n / d * d' * d = n / d * d * d' := by ring
      _ ≤ n * d' := Nat.mul_le_mul_right d' (Nat.div_mul_le_self n d)
      _ ≤ n' * d := h
  have hbits := excess_mono hwhole
  simp only [significant]
  obtain hsame | hfewer := hbits.eq_or_lt
  · rw [← hsame]
    refine Nat.mul_le_mul_right _ (roundHalfEven_mono (by positivity) (by positivity) ?_)
    calc n * (d' * 2 ^ excess (n / d)) = n * d' * 2 ^ excess (n / d) := by ring
      _ ≤ n' * d * 2 ^ excess (n / d) := Nat.mul_le_mul_right _ h
      _ = n' * (d * 2 ^ excess (n / d)) := by ring
  · -- the one is at most `2 ^ 53` in its last place, the other at least `2 ^ 52` in a higher one
    calc roundHalfEven n (d * 2 ^ excess (n / d)) * 2 ^ excess (n / d)
      _ ≤ 2 ^ 53 * 2 ^ excess (n / d) := Nat.mul_le_mul_right _ (leading_le hd)
      _ = 2 ^ 52 * 2 ^ (excess (n / d) + 1) := by ring
      _ ≤ 2 ^ 52 * 2 ^ excess (n' / d') :=
        Nat.mul_le_mul_left _ (Nat.pow_le_pow_right (by decide) hfewer)
      _ ≤ roundHalfEven n' (d' * 2 ^ excess (n' / d')) * 2 ^ excess (n' / d') :=
        Nat.mul_le_mul_right _ (le_leading hd' (Nat.zero_lt_of_lt hfewer))

/-- The rounding depends on the quotient alone. -/
theorem significant_congr (hd : 0 < d) (hd' : 0 < d') (h : n * d' = n' * d) :
    significant n d = significant n' d' :=
  Nat.le_antisymm (significant_mono hd hd' h.le) (significant_mono hd' hd h.ge)

/-- A quotient that is a number of at most 53 significant bits is that number. -/
theorem significant_mul {m : Nat} (hm : m < 2 ^ 53) (k : Nat) (hd : 0 < d) :
    significant (m * 2 ^ k * d) d = m * 2 ^ k := by
  have hvalue : m * 2 ^ k * d / d = m * 2 ^ k := Nat.mul_div_cancel _ hd
  rw [significant, hvalue]
  -- the bits beyond the leading ones are among the `k` low ones
  have hfewer : excess (m * 2 ^ k) ≤ k := by
    refine Nat.not_lt.1 fun hmore => ?_
    have := le_of_excess (Nat.zero_lt_of_lt hmore)
    have : 2 ^ 53 * 2 ^ k ≤ 2 ^ 52 * 2 ^ excess (m * 2 ^ k) := by
      calc 2 ^ 53 * 2 ^ k = 2 ^ 52 * 2 ^ (k + 1) := by ring
        _ ≤ 2 ^ 52 * 2 ^ excess (m * 2 ^ k) :=
          Nat.mul_le_mul_left _ (Nat.pow_le_pow_right (by decide) hmore)
    have := Nat.mul_lt_mul_of_pos_right hm (Nat.two_pow_pos k)
    omega
  generalize excess (m * 2 ^ k) = e at hfewer
  obtain ⟨j, rfl⟩ := Nat.exists_eq_add_of_le hfewer
  have hmultiple : m * 2 ^ (e + j) * d = m * 2 ^ j * (d * 2 ^ e) := by ring
  rw [hmultiple, roundHalfEven_mul _ (by positivity)]
  ring

/-- Rounding does not exceed a number of at most 53 significant bits that the quotient does not
exceed. -/
theorem significant_le {m k : Nat} (hm : m < 2 ^ 53) (hd : 0 < d) (h : n ≤ m * 2 ^ k * d) :
    significant n d ≤ m * 2 ^ k := by
  rw [← significant_mul hm k hd]
  exact significant_mono hd hd (Nat.mul_le_mul_right d h)

/-- A quotient that is at least one is not rounded to zero. -/
theorem significant_pos (hd : 0 < d) (h : d ≤ n) : 0 < significant n d := by
  have hone : significant (1 * 2 ^ 0 * d) d = 1 * 2 ^ 0 := significant_mul (by decide) 0 hd
  have hmono : significant (1 * 2 ^ 0 * d) d ≤ significant n d :=
    significant_mono hd hd (Nat.mul_le_mul_right d (by omega))
  omega

end

end BenchQueue
