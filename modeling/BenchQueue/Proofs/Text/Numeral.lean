import BenchQueue.Number.Reader
import BenchQueue.Text.Blank
import Mathlib.Data.List.Induction
import Mathlib.Data.List.TakeWhile
import Mathlib.Data.Nat.Digits.Defs

/-!
# Numbers in texts

A text spells a number in decimal digits, which may follow a plus sign and stand between blanks. A text
spells at most one number, and what is read from the trimmed text is the number that it spells, if that
fits into 64 bits.
-/

namespace BenchQueue.Text

variable {text : String} {n m : ℕ} {before sign digits after chars : List Char}

/-- The number with these digits, the first of which counts most. -/
def decimal (digits : List Char) : ℕ :=
  Nat.ofDigits 10 (digits.reverse.map fun c => c.toNat - '0'.toNat)

/-- A text spells a number. -/
def Spells (text : String) (n : ℕ) : Prop :=
  ∃ before sign digits after : List Char, text.toList = before ++ (sign ++ digits) ++ after ∧
    (∀ c ∈ before, isBlank c = true) ∧ (∀ c ∈ after, isBlank c = true) ∧
    (sign = [] ∨ sign = ['+']) ∧ digits ≠ [] ∧ (∀ c ∈ digits, c.isDigit = true) ∧ decimal digits = n

/-! ## Blanks -/

/-- No digit is blank, and neither is the sign. -/
theorem isBlank_eq_false {c : Char} (h : c.isDigit = true ∨ c = '+') : isBlank c = false := by
  rcases h with hdigit | rfl
  · obtain ⟨hlow, hhigh⟩ : 48 ≤ c.toNat ∧ c.toNat ≤ 57 := by
      simpa [Char.isDigit, UInt32.le_iff_toNat_le] using hdigit
    simp only [isBlank, blankRanges, List.any_eq_false, List.mem_cons, Bool.and_eq_true,
      decide_eq_true_eq, List.not_mem_nil, or_false]
    rintro _ (rfl | rfl | rfl | rfl | rfl | rfl | rfl | rfl | rfl | rfl) <;> omega
  · decide

/-- The blanks in front are dropped, and nothing else. -/
theorem dropWhile_isBlank (hbefore : ∀ c ∈ before, isBlank c = true) (hne : chars ≠ [])
    (hchars : ∀ c ∈ chars, isBlank c = false) :
    (before ++ chars ++ after).dropWhile isBlank = chars ++ after := by
  cases chars with
  | nil => exact absurd rfl hne
  | cons c chars =>
    rw [List.append_assoc, List.dropWhile_append_of_pos hbefore]
    simp [hchars c List.mem_cons_self]

/-- Trimming removes the blanks around characters of which none is blank. -/
theorem toList_trim (htext : text.toList = before ++ chars ++ after)
    (hbefore : ∀ c ∈ before, isBlank c = true) (hafter : ∀ c ∈ after, isBlank c = true)
    (hne : chars ≠ []) (hchars : ∀ c ∈ chars, isBlank c = false) : (trim text).toList = chars := by
  have hstart : text.toList.dropWhile isBlank = chars ++ after := by
    rw [htext, dropWhile_isBlank hbefore hne hchars]
  have hend : (after.reverse ++ chars.reverse ++ []).dropWhile isBlank = chars.reverse ++ [] :=
    dropWhile_isBlank (by simpa using hafter) (by simpa using hne) (by simpa using hchars)
  simp only [trim, trimEnd, trimStart, String.toList_ofList, hstart, List.reverse_append]
  simp only [List.append_nil] at hend
  rw [hend, List.reverse_reverse]

/-- What trimming removes is blank. -/
theorem exists_blanks (text : String) : ∃ before after, text.toList = before ++ (trim text).toList ++ after ∧
    (∀ c ∈ before, isBlank c = true) ∧ (∀ c ∈ after, isBlank c = true) := by
  refine ⟨text.toList.takeWhile isBlank,
    ((text.toList.dropWhile isBlank).reverse.takeWhile isBlank).reverse, ?_,
    fun c hc => List.mem_takeWhile_imp hc, fun c hc => List.mem_takeWhile_imp (List.mem_reverse.mp hc)⟩
  have hend : (trim text).toList ++ ((text.toList.dropWhile isBlank).reverse.takeWhile isBlank).reverse =
      text.toList.dropWhile isBlank := by
    simp only [trim, trimEnd, trimStart, String.toList_ofList]
    rw [← List.reverse_append, List.takeWhile_append_dropWhile, List.reverse_reverse]
  rw [List.append_assoc, hend, List.takeWhile_append_dropWhile]

/-! ## Numbers -/

/-- Reading digit by digit gives the number with these digits. -/
theorem digitsValue_eq_decimal (digits : List Char) : digitsValue digits = decimal digits := by
  induction digits using List.reverseRecOn with
  | nil => rfl
  | append_singleton digits c ih =>
    have hlast : digitsValue (digits ++ [c]) = 10 * digitsValue digits + (c.toNat - '0'.toNat) := by
      simp [digitsValue]
    rw [hlast, ih, decimal, decimal, List.reverse_append, List.reverse_singleton,
      List.singleton_append, List.map_cons, Nat.ofDigits_cons]
    exact Nat.add_comm _ _

/-- The trimmed text is the sign and the digits. -/
theorem spells_iff : Spells text n ↔ ∃ digits,
    ((trim text).toList = digits ∨ (trim text).toList = '+' :: digits) ∧ digits ≠ [] ∧
      (∀ c ∈ digits, c.isDigit = true) ∧ decimal digits = n := by
  constructor
  · rintro ⟨before, sign, digits, after, htext, hbefore, hafter, hsign, hne, hdigits, hvalue⟩
    have hchars : ∀ c ∈ sign ++ digits, isBlank c = false := by
      intro c hc
      rcases List.mem_append.mp hc with hc | hc
      · rcases hsign with rfl | rfl
        · exact absurd hc List.not_mem_nil
        · exact isBlank_eq_false (Or.inr (List.mem_singleton.mp hc))
      · exact isBlank_eq_false (Or.inl (hdigits c hc))
    have htrim := toList_trim htext hbefore hafter (by simp [hne]) hchars
    refine ⟨digits, ?_, hne, hdigits, hvalue⟩
    rcases hsign with rfl | rfl
    · exact Or.inl htrim
    · exact Or.inr htrim
  · rintro ⟨digits, htrim, hne, hdigits, hvalue⟩
    obtain ⟨before, after, htext, hbefore, hafter⟩ := exists_blanks text
    rcases htrim with htrim | htrim
    · exact ⟨before, [], digits, after, by rw [htext, htrim]; rfl, hbefore, hafter, Or.inl rfl, hne,
        hdigits, hvalue⟩
    · exact ⟨before, ['+'], digits, after, by rw [htext, htrim]; rfl, hbefore, hafter, Or.inr rfl, hne,
        hdigits, hvalue⟩

/-- The digits behind the sign, if there is one. -/
theorem parseWord?_eq (hdigits : ∀ c ∈ digits, c.isDigit = true) (hne : digits ≠ [])
    (htext : text.toList = digits ∨ text.toList = '+' :: digits) :
    parseWord? text =
      if decimal digits < UInt64.size then some (UInt64.ofNat (decimal digits)) else none := by
  have hall : digits.all Char.isDigit = true := List.all_eq_true.mpr hdigits
  rcases htext with htext | htext
  · cases digits with
    | nil => exact absurd rfl hne
    | cons c digits =>
      have hplus : c ≠ '+' := by
        rintro rfl
        exact absurd (hdigits '+' List.mem_cons_self) (by decide)
      unfold parseWord?
      rw [htext]
      split
      · rename_i rest heq
        exact absurd (List.cons_eq_cons.mp heq).1 hplus
      · simp only [hall, List.isEmpty_cons, digitsValue_eq_decimal]
        simp
  · simp [parseWord?, htext, hall, hne, digitsValue_eq_decimal]

/-- A text that is read as a number has digits only, but for a plus in front. -/
theorem exists_digits_of_parseWord? {w : UInt64} (h : parseWord? text = some w) : ∃ digits,
    (text.toList = digits ∨ text.toList = '+' :: digits) ∧ digits ≠ [] ∧
      ∀ c ∈ digits, c.isDigit = true := by
  have hall : ∀ digits : List Char, (if (!digits.isEmpty && digits.all Char.isDigit &&
      decide (digitsValue digits < UInt64.size)) = true then some (UInt64.ofNat (digitsValue digits))
      else none) = some w → digits ≠ [] ∧ ∀ c ∈ digits, c.isDigit = true := by
    intro digits hread
    split at hread
    case isTrue hdigits =>
      simp only [Bool.and_eq_true, List.all_eq_true, Bool.not_eq_true', List.isEmpty_eq_false_iff]
        at hdigits
      exact hdigits.1
    case isFalse => cases hread
  unfold parseWord? at h
  split at h
  case h_1 digits htext => exact ⟨digits, Or.inr htext, hall digits h⟩
  case h_2 => exact ⟨_, Or.inl rfl, hall _ h⟩

/-- A text spells one number only. -/
theorem Spells.unique (h : Spells text n) (h' : Spells text m) : n = m := by
  obtain ⟨digits, htrim, hne, hdigits, rfl⟩ := spells_iff.mp h
  obtain ⟨others, htrim', hne', hothers, rfl⟩ := spells_iff.mp h'
  have hplus : ∀ digits : List Char, (∀ c ∈ digits, c.isDigit = true) → ∀ rest, digits ≠ '+' :: rest := by
    rintro _ hall rest rfl
    exact absurd (hall '+' List.mem_cons_self) (by decide)
  rcases htrim with htrim | htrim <;> rcases htrim' with htrim' | htrim'
  · rw [← htrim, htrim']
  · exact absurd (htrim.symm.trans htrim') (hplus _ hdigits _)
  · exact absurd (htrim'.symm.trans htrim) (hplus _ hothers _)
  · rw [(List.cons_eq_cons.mp (htrim.symm.trans htrim')).2]

/-- What is read is the number that the text spells. -/
theorem parseWord?_trim_eq_some_iff {w : UInt64} :
    parseWord? (trim text) = some w ↔ Spells text w.toNat := by
  constructor
  · intro h
    rw [spells_iff]
    obtain ⟨digits, htrim, hne, hdigits⟩ := exists_digits_of_parseWord? h
    rw [parseWord?_eq hdigits hne htrim] at h
    split at h
    case isTrue hsmall =>
      obtain rfl := Option.some.inj h
      exact ⟨digits, htrim, hne, hdigits, (UInt64.toNat_ofNat_of_lt' hsmall).symm⟩
    case isFalse => cases h
  · intro h
    obtain ⟨digits, htrim, hne, hdigits, hvalue⟩ := spells_iff.mp h
    rw [parseWord?_eq hdigits hne htrim, hvalue, if_pos w.toNat_lt_size, UInt64.ofNat_toNat]

end BenchQueue.Text
