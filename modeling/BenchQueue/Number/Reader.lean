import BenchQueue.Number.Binary64
/-!
# Reading numbers

The double nearest to a decimal numeral, whatever its length and exponent, and the two readers for
numbers that stand alone in a text: `parseWord?` for integers of 64 bits, `parseFloat?` for doubles.
-/

namespace BenchQueue

/-- The value of a run of decimal digits. -/
def digitsValue (digits : List Char) : Nat :=
  digits.foldl (fun n c => 10 * n + (c.toNat - '0'.toNat)) 0

/-- The double nearest to `± digits · 10 ^ exponent`, infinite when that is beyond the range.
Exponents that decide the result by their size alone are not computed with. -/
def nearestFloat (negative : Bool) (digits : Nat) (exponent : Int) : Float :=
  let count : Int := (Nat.toDigits 10 digits).length
  let magnitude : Float :=
    if digits = 0 then 0.0
    else if 310 < count + exponent then 1.0 / 0.0
    else if count + exponent < -330 then 0.0
    else if 0 ≤ exponent then Float.ofScientific digits false exponent.toNat
    else Float.ofScientific digits true (-exponent).toNat
  if negative then -magnitude else magnitude

/-- An integer of 64 bits without a minus sign: an optional plus sign and digits. -/
def parseWord? (text : String) : Option UInt64 :=
  let digits := match text.toList with
    | '+' :: rest => rest
    | rest => rest
  let value := digitsValue digits
  if !digits.isEmpty && digits.all Char.isDigit && value < UInt64.size then
    some (UInt64.ofNat value)
  else none

/-- The exponent at the end of a floating-point number: nothing, or its letter, an optional sign and
digits. -/
def parseExponent? : List Char → Option Int
  | [] => some 0
  | c :: rest =>
    let (minus, digits) := match rest with
      | '-' :: rest => (true, rest)
      | '+' :: rest => (false, rest)
      | rest => (false, rest)
    let value : Int := digitsValue digits
    if (c = 'e' ∨ c = 'E') ∧ digits ≠ [] ∧ digits.all Char.isDigit then
      some (if minus then -value else value)
    else none

/-- A floating-point number: an optional sign, then digits with a point among or around them and an
optional exponent, or one of the words `inf`, `infinity` and `nan` in either case. -/
def parseFloat? (text : String) : Option Float :=
  let (negative, body) := match text.toList with
    | '-' :: rest => (true, rest)
    | '+' :: rest => (false, rest)
    | rest => (false, rest)
  let word := String.ofList (body.map Char.toLower)
  if word = "inf" ∨ word = "infinity" then some (if negative then -1.0 / 0.0 else 1.0 / 0.0)
  else if word = "nan" then some (0.0 / 0.0)
  else
    let whole := body.takeWhile Char.isDigit
    let rest := body.drop whole.length
    let (fraction, rest) := match rest with
      | '.' :: rest => (rest.takeWhile Char.isDigit, rest.dropWhile Char.isDigit)
      | rest => ([], rest)
    if whole.isEmpty && fraction.isEmpty then none
    else
      (parseExponent? rest).map fun exponent =>
        nearestFloat negative (digitsValue (whole ++ fraction)) (exponent - fraction.length)

end BenchQueue
