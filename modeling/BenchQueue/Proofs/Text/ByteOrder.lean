import Mathlib.Data.String.Basic
import Mathlib.Order.Basic

/-!
# The order of bytes

Texts are compared character by character. Their bytes in UTF-8 stand in the same order: the first byte of
a character tells how many bytes follow it, and the bytes that follow are the lower digits of the code point
in base 64. So the order of names in a sorted list is the order of their bytes.
-/

namespace BenchQueue.Text

/-- The bytes of a text in UTF-8. -/
def bytes (s : String) : List UInt8 := s.toUTF8.data.toList

/-- The bytes of a text are those of its characters, one after the other. -/
theorem bytes_eq_flatMap (s : String) : bytes s = s.toList.flatMap String.utf8EncodeChar := by
  have hbytes : s.toUTF8 = s.toList.utf8Encode := by
    rw [← String.toByteArray_ofList, String.ofList_toList, String.toUTF8_eq_toByteArray]
  rw [bytes, hbytes]
  exact List.toList_data_toByteArray

/-! ## The bytes of one character -/

/-- The last digits of a code point in base 64, each as a byte that continues a character. -/
def continuation : Nat → Nat → List UInt8
  | 0, _ => []
  | count + 1, code => continuation count (code / 64) ++ [UInt8.ofNat (code % 64 + 128)]

/-- How many bytes continue the character with a code point. -/
def continued (code : Nat) : Nat :=
  if code ≤ 0x7f then 0 else if code ≤ 0x7ff then 1 else if code ≤ 0xffff then 2 else 3

/-- The first byte of the character with a code point, as a number. -/
def lead (code : Nat) : Nat :=
  if code ≤ 0x7f then code else if code ≤ 0x7ff then code / 64 + 192
  else if code ≤ 0xffff then code / 64 / 64 + 224 else code / 64 / 64 / 64 + 240

/-- Code points end below this one. -/
theorem code_lt (c : Char) : c.val.toNat < 0x110000 := by
  rcases c.valid with hlow | ⟨-, hhigh⟩
  · exact hlow.trans (by decide)
  · exact hhigh

/-- The first byte of a character is a byte. -/
theorem lead_lt {code : Nat} (h : code < 0x110000) : lead code < 256 := by
  unfold lead
  split_ifs <;> omega

/-- A character is its first byte and the bytes that continue it. -/
theorem utf8EncodeChar_eq (c : Char) : String.utf8EncodeChar c =
    UInt8.ofNat (lead c.val.toNat) :: continuation (continued c.val.toNat) c.val.toNat := by
  have hcode := code_lt c
  simp only [String.utf8EncodeChar, lead, continued]
  generalize c.val.toNat = code at hcode ⊢
  split_ifs
  · rfl
  · rw [Nat.mod_eq_of_lt (by omega : code / 64 < 32)]
    rfl
  · rw [← Nat.div_div_eq_div_mul code 64 64, Nat.mod_eq_of_lt (by omega : code / 64 / 64 < 16)]
    rfl
  · rw [← Nat.div_div_eq_div_mul code 4096 64, ← Nat.div_div_eq_div_mul code 64 64,
      Nat.mod_eq_of_lt (by omega : code / 64 / 64 / 64 < 8)]
    rfl

/-- The lower of two code points has the lower first byte, or the two agree in the first byte, in the number
of bytes and so in all digits before those of the bytes that follow. -/
theorem lead_lt_or_eq {m n : Nat} (h : m < n) : lead m < lead n ∨
    lead m = lead n ∧ continued m = continued n ∧ m / 64 ^ continued m = n / 64 ^ continued n := by
  unfold lead continued
  split_ifs <;> simp <;> omega

/-! ## The order -/

/-- Lists of bytes are ordered by their first bytes, and by the rest if these are equal. -/
theorem cons_lt_cons {m n : Nat} {xs ys : List UInt8} (hm : m < 256) (hn : n < 256)
    (h : m < n ∨ m = n ∧ xs < ys) : UInt8.ofNat m :: xs < UInt8.ofNat n :: ys := by
  rw [List.cons_lt_cons_iff, UInt8.lt_iff_toNat_lt, UInt8.toNat_ofNat_of_lt' hm,
    UInt8.toNat_ofNat_of_lt' hn]
  exact h.imp_right fun ⟨hsame, hlt⟩ => ⟨by rw [hsame], hlt⟩

/-- Characters with the same first byte are ordered by the bytes that continue them, whatever
follows. -/
theorem continuation_append_lt {count m n : Nat} (h : m < n) (hsame : m / 64 ^ count = n / 64 ^ count)
    (xs ys : List UInt8) : continuation count m ++ xs < continuation count n ++ ys := by
  induction count generalizing m n xs ys with
  | zero => exact absurd (by simpa using hsame) h.ne
  | succ count ih =>
    simp only [continuation, List.append_assoc, List.singleton_append]
    rcases Nat.lt_or_eq_of_le (Nat.div_le_div_right (c := 64) h.le) with hlt | heq
    · exact ih hlt (by simpa [Nat.div_div_eq_div_mul, Nat.pow_succ'] using hsame) ..
    · rw [heq]
      exact List.append_left_lt (cons_lt_cons (by omega) (by omega) (.inl (by omega)))

/-- The bytes of a character are before those of a later one, whatever follows them. -/
theorem utf8EncodeChar_append_lt {c d : Char} (h : c < d) (xs ys : List UInt8) :
    String.utf8EncodeChar c ++ xs < String.utf8EncodeChar d ++ ys := by
  have hlt : c.val.toNat < d.val.toNat := h
  rw [utf8EncodeChar_eq, utf8EncodeChar_eq]
  refine cons_lt_cons (lead_lt (code_lt c)) (lead_lt (code_lt d)) ?_
  refine (lead_lt_or_eq hlt).imp_right fun ⟨hlead, hcount, hdigits⟩ => ⟨hlead, ?_⟩
  rw [← hcount] at hdigits ⊢
  exact continuation_append_lt hlt hdigits xs ys

/-- Texts in the order of their characters are in the order of their bytes. -/
theorem flatMap_utf8EncodeChar_lt {cs ds : List Char} (h : cs < ds) :
    cs.flatMap String.utf8EncodeChar < ds.flatMap String.utf8EncodeChar := by
  induction h with
  | nil =>
    rw [List.flatMap_cons, utf8EncodeChar_eq]
    exact List.nil_lt_cons ..
  | rel hlt => simpa using utf8EncodeChar_append_lt hlt _ _
  | cons _ ih => simpa using List.append_left_lt ih

/-- A text is before another one exactly when its bytes are. -/
theorem bytes_lt_bytes_iff {a b : String} : bytes a < bytes b ↔ a < b := by
  have hlt {a b : String} (h : a < b) : bytes a < bytes b := by
    rw [bytes_eq_flatMap, bytes_eq_flatMap]
    exact flatMap_utf8EncodeChar_lt (String.lt_iff.mp h)
  refine ⟨fun h => ?_, hlt⟩
  rcases lt_trichotomy a b with hab | rfl | hba
  · exact hab
  · exact absurd h (List.lt_irrefl _)
  · exact absurd h (List.lt_asymm (hlt hba))

end BenchQueue.Text
