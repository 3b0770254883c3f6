import BenchQueue.Number.Reader
import BenchQueue.Number.Text
import BenchQueue.Text.Blank
/-!
# Points in time

A timestamp counts seconds from the start of 1970 in universal time and nanoseconds beyond them; a
leap second is the second before it with a fraction of `10 ^ 9` nanoseconds or more. The written
form is that of RFC 3339 with 0, 3, 6 or 9 digits of a second; the reader takes any offset from
universal time and any number of digits.
-/

namespace BenchQueue

/-- A point in time. -/
structure Timestamp where
  seconds : Int
  nanos : Nat
  deriving DecidableEq, Repr, Inhabited

/-- A day of the Gregorian calendar. -/
structure CivilDate where
  year : Int
  month : Nat
  day : Nat
  deriving DecidableEq, Repr

namespace CivilDate

/-- Whether a year has a 29th of February. -/
def isLeap (year : Int) : Bool :=
  year % 4 == 0 && (year % 100 != 0 || year % 400 == 0)

/-- The number of days of a month; zero for a number that names none. -/
def daysInMonth (year : Int) (month : Nat) : Nat :=
  match month with
  | 2 => if isLeap year then 29 else 28
  | 4 | 6 | 9 | 11 => 30
  | 1 | 3 | 5 | 7 | 8 | 10 | 12 => 31
  | _ => 0

/-- Whether the date exists and lies in the supported range of years. -/
def isValid (d : CivilDate) : Bool :=
  -262143 ≤ d.year && d.year ≤ 262142 && 1 ≤ d.day && d.day ≤ daysInMonth d.year d.month

/-- The days from the first of January 1970. A year is counted from March, so that the leap day is
its last one. -/
def toDays (d : CivilDate) : Int :=
  let year := if d.month ≤ 2 then d.year - 1 else d.year
  let era := year.fdiv 400
  let yearOfEra := year - era * 400
  let shifted : Int := (d.month + 9) % 12
  let dayOfYear := (153 * shifted + 2) / 5 + d.day - 1
  let dayOfEra := yearOfEra * 365 + yearOfEra / 4 - yearOfEra / 100 + dayOfYear
  era * 146097 + dayOfEra - 719468

/-- The date of a number of days from the first of January 1970. -/
def ofDays (days : Int) : CivilDate :=
  let z := days + 719468
  let era := z.fdiv 146097
  let dayOfEra := z - era * 146097
  let yearOfEra := (dayOfEra - dayOfEra / 1460 + dayOfEra / 36524 - dayOfEra / 146096) / 365
  let dayOfYear := dayOfEra - (365 * yearOfEra + yearOfEra / 4 - yearOfEra / 100)
  let shifted := (5 * dayOfYear + 2) / 153
  let day := dayOfYear - (153 * shifted + 2) / 5 + 1
  let month := if shifted < 10 then shifted + 3 else shifted - 9
  let year := yearOfEra + era * 400
  ⟨if month ≤ 2 then year + 1 else year, month.toNat, day.toNat⟩

/-- Four digits of the year, with a sign and at least as many digits outside of 0 to 9999. -/
def text (d : CivilDate) : String :=
  let year :=
    if 0 ≤ d.year ∧ d.year ≤ 9999 then FloatText.padded 4 d.year.toNat
    else (if d.year < 0 then "-" else "+") ++ FloatText.padded 4 d.year.natAbs
  year ++ "-" ++ FloatText.padded 2 d.month ++ "-" ++ FloatText.padded 2 d.day

end CivilDate

namespace Timestamp

/-- The order in time. -/
def compare (a b : Timestamp) : Ordering :=
  (Ord.compare a.seconds b.seconds).then (Ord.compare a.nanos b.nanos)

/-- A digit count of 0, 3, 6 or 9, the least that loses nothing. -/
def fractionText (nanos : Nat) : String :=
  if nanos = 0 then ""
  else if nanos % 1000000 = 0 then "." ++ FloatText.padded 3 (nanos / 1000000)
  else if nanos % 1000 = 0 then "." ++ FloatText.padded 6 (nanos / 1000)
  else "." ++ FloatText.padded 9 nanos

/-- The written form in universal time. -/
def text (t : Timestamp) : String :=
  let days := t.seconds.fdiv 86400
  let second := (t.seconds - days * 86400).toNat
  let leap := 1000000000 ≤ t.nanos
  (CivilDate.ofDays days).text ++ "T" ++ FloatText.padded 2 (second / 3600) ++ ":" ++
    FloatText.padded 2 (second / 60 % 60) ++ ":" ++
    FloatText.padded 2 (second % 60 + if leap then 1 else 0) ++
    fractionText (if leap then t.nanos - 1000000000 else t.nanos) ++ "Z"

/-- Between one and `most` decimal digits, behind blanks. -/
def readNumber (most : Nat) (text : List Char) : Option (Nat × List Char) :=
  let text := text.dropWhile Text.isBlank
  let digits := (text.take most).takeWhile Char.isDigit
  if digits.isEmpty then none else some (digitsValue digits, text.drop digits.length)

/-- A year: up to four digits, or a sign and any number of digits. -/
def readYear (text : List Char) : Option (Int × List Char) :=
  match text.dropWhile Text.isBlank with
  | '-' :: rest => (readDigits rest).map fun (n, rest) => (-n, rest)
  | '+' :: rest => (readDigits rest).map fun (n, rest) => (n, rest)
  | text => (readNumber 4 text).map fun (n, rest) => (n, rest)
where
  readDigits (text : List Char) : Option (Int × List Char) :=
    let digits := text.takeWhile Char.isDigit
    if digits.isEmpty then none else some (digitsValue digits, text.drop digits.length)

/-- One character that must come next, behind blanks. -/
def expect (c : Char) (text : List Char) : Option (List Char) :=
  match text.dropWhile Text.isBlank with
  | d :: rest => if c = d then some rest else none
  | [] => none

/-- The digits behind a point as nanoseconds; digits beyond the ninth are dropped. -/
def readFraction : List Char → Option (Nat × List Char)
  | '.' :: rest =>
    let digits := (rest.take 9).takeWhile Char.isDigit
    if digits.isEmpty then none
    else
      some (digitsValue digits * Nat.pow 10 (9 - digits.length),
        (rest.drop digits.length).dropWhile Char.isDigit)
  | text => some (0, text)

/-- An offset from universal time in seconds: `Z`, `UTC`, or a sign, hours and minutes. -/
def readOffset (text : List Char) : Option (Int × List Char) :=
  let text := text.dropWhile Text.isBlank
  if (text.take 3).map Char.toUpper = ['U', 'T', 'C'] then some (0, text.drop 3)
  else
    match text with
    | 'Z' :: rest => some (0, rest)
    | 'z' :: rest => some (0, rest)
    | sign :: h₁ :: h₂ :: rest =>
      if (sign = '+' ∨ sign = '-' ∨ sign = '−') ∧ h₁.isDigit ∧ h₂.isDigit then
        match rest.dropWhile (fun c => c == ':' || Text.isBlank c) with
        | m₁ :: m₂ :: rest =>
          let seconds : Int := digitsValue [h₁, h₂] * 3600 + digitsValue [m₁, m₂] * 60
          if m₁.isDigit ∧ m₂.isDigit ∧ m₁ < '6' ∧ seconds < 86400 then
            some (if sign = '+' then seconds else -seconds, rest)
          else none
        | _ => none
      else none
    | _ => none

/-- Reads a date, a time of day and an offset. -/
def parse? (s : String) : Option Timestamp := do
  let (year, rest) ← readYear s.toList
  let rest ← expect '-' rest
  let (month, rest) ← readNumber 2 rest
  let rest ← expect '-' rest
  let (day, rest) ← readNumber 2 rest
  let rest ← match rest with
    | c :: rest => if c = 'T' ∨ c = 't' ∨ c = ' ' then some rest else none
    | [] => none
  let (hour, rest) ← readNumber 2 rest
  let rest ← expect ':' rest
  let (minute, rest) ← readNumber 2 rest
  let rest ← expect ':' rest
  let (second, rest) ← readNumber 2 rest
  let (nanos, rest) ← readFraction rest
  let (offset, rest) ← readOffset rest
  let date : CivilDate := ⟨year, month, day⟩
  if (rest.dropWhile Text.isBlank).isEmpty && date.isValid &&
      hour < 24 && minute < 60 && second ≤ 60
  then
    let clock : Int := hour * 3600 + minute * 60 + (if second = 60 then 59 else second)
    pure ⟨date.toDays * 86400 + clock - offset, if second = 60 then 1000000000 + nanos else nanos⟩
  else none

/-- The start of the year 2000, from which databases count. -/
def millennium : Timestamp := ⟨946684800, 0⟩

/-- The microseconds from the start of the year 2000, cut towards it. -/
def toMicros (t : Timestamp) : Int :=
  let nanos := (t.seconds - millennium.seconds) * 1000000000 + t.nanos
  nanos.tdiv 1000

/-- The point in time that many microseconds after the start of the year 2000. -/
def ofMicros (micros : Int) : Timestamp :=
  ⟨millennium.seconds + micros.fdiv 1000000, (micros.fmod 1000000).toNat * 1000⟩

end Timestamp

end BenchQueue
