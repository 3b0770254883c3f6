/-!
# Binary64 values

A finite double is a sign, a natural significand and a power of two. The printers and readers of
numbers work on this exact form and never on the arithmetic of `Float`.
-/

namespace BenchQueue

/-- The class of a double, a finite one as `±significand · 2 ^ exponent`. -/
inductive Binary64
  | nan
  | infinite (negative : Bool)
  | finite (negative : Bool) (significand : Nat) (exponent : Int)
  deriving DecidableEq, Repr

namespace Binary64

/-- The least significand of a double in the normal range, the 52nd power of two. -/
abbrev leastNormal : Nat := 4503599627370496

/-- Reads the sign, exponent and fraction fields of the bit pattern of a double. -/
def ofBits (bits : UInt64) : Binary64 :=
  let word := bits.toNat
  let negative := decide (word >>> 63 = 1)
  let biased : Nat := word >>> 52 % 2048
  let fraction : Nat := word % leastNormal
  if biased = 2047 then
    if fraction = 0 then .infinite negative else .nan
  else if biased = 0 then
    .finite negative fraction (-1074)
  else
    .finite negative (leastNormal + fraction) ((biased : Int) - 1075)

/-- The exact form of a double. -/
def ofFloat (x : Float) : Binary64 :=
  ofBits x.toBits

/-- A quotient of naturals whose value is the magnitude of a finite double. -/
def ratio (significand : Nat) (exponent : Int) : Nat × Nat :=
  if 0 ≤ exponent then (significand <<< exponent.toNat, 1)
  else (significand, 1 <<< (-exponent).toNat)

end Binary64

/-- The quotient `num / den` rounded to the nearest natural, a tie to the even one. -/
def roundHalfEven (num den : Nat) : Nat :=
  let quotient := num / den
  let twice := 2 * (num % den)
  if twice < den then quotient
  else if den < twice then quotient + 1
  else quotient + quotient % 2

end BenchQueue
