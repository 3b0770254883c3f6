import BenchQueue.Json.Basic
import BenchQueue.Number.Text
/-!
# Compact JSON texts

A value is written without blanks. In a string the quote, the backslash and the control characters
are escaped, five of them by a letter, and every other character stands for itself.
-/

namespace BenchQueue.Json

/-- The lower-case hexadecimal digit of a number below sixteen. -/
def hexDigit (n : Nat) : Char :=
  Nat.digitChar (n % 16)

/-- The characters that stand for one character of a string. -/
def escapeChar (c : Char) : List Char :=
  if c = '"' then ['\\', '"']
  else if c = '\\' then ['\\', '\\']
  else if c = '\n' then ['\\', 'n']
  else if c = '\r' then ['\\', 'r']
  else if c = '\t' then ['\\', 't']
  else if c.toNat = 0x8 then ['\\', 'b']
  else if c.toNat = 0xC then ['\\', 'f']
  else if c.toNat < 0x20 then ['\\', 'u', '0', '0', hexDigit (c.toNat / 16), hexDigit c.toNat]
  else [c]

/-- A string between quotes. -/
def quote (s : String) : String :=
  String.ofList ('"' :: s.toList.flatMap escapeChar ++ ['"'])

mutual

/-- The compact text of a value. -/
def render : Json → String
  | .null => "null"
  | .bool value => if value then "true" else "false"
  | .int value => toString value
  | .float value => if value.isFinite then FloatText.compact value else "null"
  | .str value => quote value
  | .arr [] => "[]"
  | .arr (item :: rest) => "[" ++ render item ++ renderItems rest ++ "]"
  | .obj [] => "\x7b\x7d"
  | .obj ((name, value) :: rest) =>
    "\x7b" ++ quote name ++ ":" ++ render value ++ renderMembers rest ++ "\x7d"

/-- The texts of the later items of an array, each after a comma. -/
def renderItems : List Json → String
  | [] => ""
  | item :: rest => "," ++ render item ++ renderItems rest

/-- The texts of the later members of an object, each after a comma. -/
def renderMembers : List (String × Json) → String
  | [] => ""
  | (name, value) :: rest => "," ++ quote name ++ ":" ++ render value ++ renderMembers rest

end

end BenchQueue.Json
