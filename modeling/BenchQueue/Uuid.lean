import BenchQueue.Number.Text
/-!
# Identifiers of 128 bits

A UUID is written as 32 lower-case hexadecimal digits in five groups and read in that form, without
its hyphens, between braces or behind `urn:uuid:`, in either case.
-/

namespace BenchQueue

/-- An identifier of 128 bits. -/
structure Uuid where
  bits : BitVec 128
  deriving DecidableEq, Repr

namespace Uuid

/-- The identifier whose bits are all zero. -/
def nil : Uuid := ⟨0⟩

instance : Inhabited Uuid := ⟨nil⟩

/-- The order of the bits read as a number, which is the order of the written forms. -/
def compare (a b : Uuid) : Ordering := Ord.compare a.bits.toNat b.bits.toNat

/-- The 32 hexadecimal digits. -/
def digits (id : Uuid) : List Char :=
  (List.range 32).map fun i => Nat.digitChar (id.bits.toNat >>> (4 * (31 - i)) % 16)

/-- The digits in groups of 8, 4, 4, 4 and 12 with hyphens between them. -/
def text (id : Uuid) : String :=
  let d := id.digits
  String.ofList <| d.take 8 ++ '-' :: (d.drop 8).take 4 ++ '-' :: (d.drop 12).take 4 ++
    '-' :: (d.drop 16).take 4 ++ '-' :: d.drop 20

/-- The four bits that say how an identifier was made. -/
def version (id : Uuid) : Nat := id.bits.toNat >>> 76 % 16

/-- The value of a hexadecimal digit. -/
def hexValue? (c : Char) : Option Nat :=
  if '0' ≤ c ∧ c ≤ '9' then some (c.toNat - '0'.toNat)
  else if 'a' ≤ c ∧ c ≤ 'f' then some (c.toNat - 'a'.toNat + 10)
  else if 'A' ≤ c ∧ c ≤ 'F' then some (c.toNat - 'A'.toNat + 10)
  else none

/-- The identifier of exactly 32 hexadecimal digits. -/
def ofDigits? (digits : List Char) : Option Uuid :=
  if digits.length = 32 then
    (digits.mapM hexValue?).map fun values =>
      ⟨BitVec.ofNat 128 (values.foldl (fun n d => 16 * n + d) 0)⟩
  else none

/-- The digits of the hyphenated form. -/
def ofHyphenated? (s : List Char) : Option Uuid :=
  if s.length = 36 ∧ s[8]? = some '-' ∧ s[13]? = some '-' ∧ s[18]? = some '-' ∧
      s[23]? = some '-' then
    ofDigits?
      (s.take 8 ++ (s.drop 9).take 4 ++ (s.drop 14).take 4 ++ (s.drop 19).take 4 ++ s.drop 24)
  else none

/-- Reads one of the four written forms. -/
def parse? (s : String) : Option Uuid :=
  let chars := s.toList
  if chars.length = 32 then ofDigits? chars
  else if chars.length = 36 then ofHyphenated? chars
  else if chars.length = 38 ∧ chars.head? = some '\x7b' ∧ chars.getLast? = some '\x7d' then
    ofHyphenated? (chars.drop 1).dropLast
  else if chars.take 9 = "urn:uuid:".toList then ofHyphenated? (chars.drop 9)
  else none

/-- An identifier of version 7: 48 bits of milliseconds, then a serial number. -/
def ofMillis (millis serial : Nat) : Uuid :=
  ⟨BitVec.ofNat 48 millis ++ 7#4 ++ 0#12 ++ 2#2 ++ BitVec.ofNat 62 serial⟩

end Uuid

end BenchQueue
