/-!
# The SHA-1 digest

The digest that names the objects of a repository, over a list of bytes.
-/

namespace BenchQueue.Machine.Sha1

/-- A word with its bits rotated to the left. -/
def rotate (x : UInt32) (n : UInt32) : UInt32 := (x <<< n) ||| (x >>> (32 - n))

/-- The five words of a digest. -/
structure Digest where
  a : UInt32 := 0x67452301
  b : UInt32 := 0xEFCDAB89
  c : UInt32 := 0x98BADCFE
  d : UInt32 := 0x10325476
  e : UInt32 := 0xC3D2E1F0
  deriving DecidableEq, Repr

/-- Four bytes as a word, the first one the highest. -/
def word (b₀ b₁ b₂ b₃ : UInt8) : UInt32 :=
  (b₀.toUInt32 <<< 24) ||| (b₁.toUInt32 <<< 16) ||| (b₂.toUInt32 <<< 8) ||| b₃.toUInt32

/-- The words of bytes in groups of four. -/
def words : List UInt8 → List UInt32
  | b₀ :: b₁ :: b₂ :: b₃ :: rest => word b₀ b₁ b₂ b₃ :: words rest
  | _ => []

/-- The bytes of a number, the highest first. -/
def bigEndian (count n : Nat) : List UInt8 :=
  (List.range count).map fun i => UInt8.ofNat (n >>> (8 * (count - 1 - i)))

/-- The message with a one bit, zeros and its length, in whole blocks. -/
def padded (message : List UInt8) : List UInt8 :=
  let length := message.length
  message ++ 0x80 :: List.replicate ((119 - length % 64) % 64) 0 ++ bigEndian 8 (8 * length)

/-- The eighty words of a block. -/
def schedule (block : Array UInt32) : Array UInt32 :=
  (List.range 64).foldl (fun w i =>
    w.push (rotate (w.getD (i + 13) 0 ^^^ w.getD (i + 8) 0 ^^^ w.getD (i + 2) 0 ^^^ w.getD i 0) 1))
    block

/-- The mixing function and constant of a round. -/
def mix (i : Nat) (b c d : UInt32) : UInt32 × UInt32 :=
  if i < 20 then ((b &&& c) ||| (~~~b &&& d), 0x5A827999)
  else if i < 40 then (b ^^^ c ^^^ d, 0x6ED9EBA1)
  else if i < 60 then ((b &&& c) ||| (b &&& d) ||| (c &&& d), 0x8F1BBCDC)
  else (b ^^^ c ^^^ d, 0xCA62C1D6)

/-- One round. -/
def round (w : Array UInt32) (h : Digest) (i : Nat) : Digest :=
  let (f, k) := mix i h.b h.c h.d
  { a := rotate h.a 5 + f + h.e + k + w.getD i 0, b := h.a, c := rotate h.b 30, d := h.c, e := h.d }

/-- The digest after one more block. -/
def addBlock (h : Digest) (block : List UInt32) : Digest :=
  let t := (List.range 80).foldl (round (schedule block.toArray)) h
  { a := h.a + t.a, b := h.b + t.b, c := h.c + t.c, d := h.d + t.d, e := h.e + t.e }

/-- The digest after the first blocks of words. -/
def addBlocks : Nat → Digest → List UInt32 → Digest
  | 0, h, _ => h
  | _ + 1, h, [] => h
  | n + 1, h, rest => addBlocks n (addBlock h (rest.take 16)) (rest.drop 16)

/-- The digest of a message. -/
def digest (message : List UInt8) : Digest :=
  let w := words (padded message)
  addBlocks (w.length / 16) {} w

/-- The bytes of a digest. -/
def Digest.bytes (h : Digest) : List UInt8 :=
  [h.a, h.b, h.c, h.d, h.e].flatMap fun x => bigEndian 4 x.toNat

/-- Bytes as hexadecimal digits. -/
def hexText (bytes : List UInt8) : String :=
  String.ofList (bytes.flatMap fun b =>
    [Nat.digitChar (b.toNat / 16), Nat.digitChar (b.toNat % 16)])

end BenchQueue.Machine.Sha1
