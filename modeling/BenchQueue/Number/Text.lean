import BenchQueue.Number.Shortest
/-!
# Texts of doubles

Three printers over the exact form of a double: the fewest digits that read back, in positional
notation (`positional`) or with an exponent for very large and very small values (`compact`), and
a fixed number of decimal places (`fixed`).
-/

namespace BenchQueue.FloatText

/-- The digits of a natural, padded on the left with zeros to at least `width` characters. -/
def padded (width n : Nat) : String :=
  let digits := Nat.toDigits 10 n
  String.ofList (List.replicate (width - digits.length) '0' ++ digits)

/-- The sign in front of the digits. -/
def sign (negative : Bool) : String :=
  if negative then "-" else ""

/-- `digits` with a point before its last `places` digits, and at least one digit before it. -/
def withPoint (digits places : Nat) : String :=
  if places = 0 then toString digits
  else toString (digits / Nat.pow 10 places) ++ "." ++ padded places (digits % Nat.pow 10 places)

/-- A decimal without an exponent. -/
def plain (d : Decimal) : String :=
  if 0 ≤ d.exponent then toString (d.digits * Nat.pow 10 d.exponent.toNat)
  else withPoint d.digits (-d.exponent).toNat

/-- The fewest digits that read back, never with an exponent; a whole number has no point. -/
def positional (x : Float) : String :=
  match Binary64.ofFloat x with
  | .nan => "NaN"
  | .infinite negative => sign negative ++ "inf"
  | .finite negative significand exponent =>
    sign negative ++
      if significand = 0 then "0" else plain (Decimal.shortest significand exponent)

/-- A decimal with a point or an exponent: an exponent is written where the value is at least
`10 ^ 16` or less than `10 ^ -5`, and a whole number keeps one zero after its point. -/
def marked (d : Decimal) : String :=
  let count := (Nat.toDigits 10 d.digits).length
  let point := d.exponent + count
  if 0 ≤ d.exponent ∧ point ≤ 16 then plain d ++ ".0"
  else if -5 < point ∧ point ≤ 16 then plain d
  else
    withPoint d.digits (count - 1) ++ "e" ++ toString (point - 1)

/-- The fewest digits that read back, with a point or an exponent; the text of a finite value in a
JSON document. -/
def compact (x : Float) : String :=
  match Binary64.ofFloat x with
  | .nan => "NaN"
  | .infinite negative => sign negative ++ "inf"
  | .finite negative significand exponent =>
    sign negative ++
      if significand = 0 then "0.0" else marked (Decimal.shortest significand exponent)

/-- The exact value rounded to `places` decimal places, a tie to the even neighbour. A negative
value keeps its sign when it is rounded to zero. -/
def fixed (places : Nat) (x : Float) : String :=
  match Binary64.ofFloat x with
  | .nan => "NaN"
  | .infinite negative => sign negative ++ "inf"
  | .finite negative significand exponent =>
    let (num, den) := Binary64.ratio significand exponent
    sign negative ++ withPoint (roundHalfEven (num * Nat.pow 10 places) den) places

end BenchQueue.FloatText
