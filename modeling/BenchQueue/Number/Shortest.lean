import BenchQueue.Number.Binary64
/-!
# Shortest decimals

The decimal with the fewest digits that reads back as a given positive double, and of those with
that many digits the nearest one. A decimal is a natural `digits` times a power of ten.
-/

namespace BenchQueue

/-- The positive decimal `digits · 10 ^ exponent`. -/
structure Decimal where
  digits : Nat
  exponent : Int
  deriving DecidableEq, Repr

namespace Decimal

/-- `digits · 10 ^ exponent` as a quotient of naturals. -/
def ratio (d : Decimal) : Nat × Nat :=
  if 0 ≤ d.exponent then (d.digits * Nat.pow 10 d.exponent.toNat, 1)
  else (d.digits, Nat.pow 10 (-d.exponent).toNat)

/-- Removes the zeros at the end of the digits. -/
def strip (d : Decimal) : Decimal :=
  go d.digits d.digits d.exponent
where
  go : Nat → Nat → Int → Decimal
    | 0, digits, exponent => ⟨digits, exponent⟩
    | fuel + 1, digits, exponent =>
      if digits ≠ 0 ∧ digits % 10 = 0 then go fuel (digits / 10) (exponent + 1)
      else ⟨digits, exponent⟩

/-- The reals that round to a positive finite double: between `low / den` and `high / den`, the
two ends included exactly when the significand is even. The value itself is `value / den`. -/
structure Interval where
  low : Nat
  value : Nat
  high : Nat
  den : Nat
  closed : Bool

/-- The rounding interval of `significand · 2 ^ exponent`. Below a power of two the neighbour is
half as far away, unless the power is the least of the normal range. -/
def Interval.of (significand : Nat) (exponent : Int) : Interval :=
  let scale := 4
  let (num, den) := Binary64.ratio 1 exponent
  let below := if significand = Binary64.leastNormal ∧ -1074 < exponent then 1 else 2
  { low := (scale * significand - below) * num
    value := scale * significand * num
    high := (scale * significand + 2) * num
    den := scale * den
    closed := significand % 2 = 0 }

/-- Whether `num / den` lies in the interval. -/
def Interval.contains (i : Interval) (num den : Nat) : Bool :=
  let lowSide := compare (i.low * den) (num * i.den)
  let highSide := compare (num * i.den) (i.high * den)
  (lowSide == .lt || (lowSide == .eq && i.closed)) &&
    (highSide == .lt || (highSide == .eq && i.closed))

/-- The greatest `k` with `10 ^ k ≤ num / den`, for a positive quotient. -/
def magnitude (num den : Nat) : Int :=
  if den ≤ num then up (num / den) (num / den) 0 else down 400 (num * 10) 1
where
  up : Nat → Nat → Int → Int
    | 0, _, k => k
    | fuel + 1, n, k => if 10 ≤ n then up fuel (n / 10) (k + 1) else k
  down : Nat → Nat → Int → Int
    | 0, _, k => -k
    | fuel + 1, n, k => if den ≤ n then -k else down fuel (n * 10) (k + 1)

/-- The points of the grid `10 ^ power` next to the value of the interval that lie in it, the
nearer first; the even one first when both are equally near. -/
def neighbours (i : Interval) (power : Int) : List Decimal :=
  let (unitNum, unitDen) := Decimal.ratio ⟨1, power⟩
  let num := i.value * unitDen
  let den := i.den * unitNum
  let lower := num / den
  let nearest := roundHalfEven num den
  let other := if nearest = lower then lower + 1 else lower
  [nearest, other].filterMap fun digits =>
    let candidate : Decimal := ⟨digits, power⟩
    let (n, d) := candidate.ratio
    if digits ≠ 0 ∧ i.contains n d then some candidate else none

/-- The shortest decimal that reads back as `significand · 2 ^ exponent`, searched on the grids of
one, two, … seventeen digits. -/
def shortest (significand : Nat) (exponent : Int) : Decimal :=
  let interval := Interval.of significand exponent
  let top := magnitude interval.value interval.den
  let candidates := (List.range 18).findSome? fun (places : Nat) =>
    (neighbours interval (top - places)).head?
  (candidates.getD ⟨significand, exponent⟩).strip

end Decimal

end BenchQueue
