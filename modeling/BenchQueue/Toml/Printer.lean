import BenchQueue.Number.Text
import BenchQueue.Toml.Value
/-!
# Writing TOML documents

The entries of a table are written one a line, those that are no tables first; a nested table and
every table of an array that holds nothing but tables have a section of their own behind them. A
string takes the simplest quotes that need no escapes.
-/

namespace BenchQueue.Toml

/-- Four upper-case hexadecimal digits. -/
def hex4 (n : Nat) : String :=
  let digits := (Nat.toDigits 16 n).map Char.toUpper
  String.ofList (List.replicate (4 - digits.length) '0' ++ digits)

/-- Whether a character cannot stand in a text without an escape, whatever the quotes. -/
def isControl (c : Char) : Bool :=
  (c.toNat < 0x20 && c != '\t' && c != '\n') || c.toNat == 0x7F

/-- The length of the longest run of one character. -/
def longestRun (c : Char) (text : List Char) : Nat :=
  (text.foldl (fun (run, longest) d =>
    let run := if d = c then run + 1 else 0
    (run, if longest < run then run else longest)) ((0 : Nat), (0 : Nat))).2

/-- The quotes of a string. -/
inductive Quotes
  | basic
  | literal
  | multilineBasic
  | multilineLiteral
  deriving DecidableEq, Repr

/-- The text of the quotes. -/
def Quotes.mark : Quotes → String
  | .basic => "\""
  | .literal => "'"
  | .multilineBasic => "\"\"\""
  | .multilineLiteral => "'''"

/-- The quotes of a value: basic ones if nothing needs an escape, then literal ones, then those for
several lines; basic ones with escapes as a last resort. -/
def Quotes.forValue (text : List Char) : Quotes :=
  let control := text.any isControl
  let backslash := text.contains '\\'
  let newline := text.contains '\n'
  let singles := longestRun '\'' text
  let doubles := longestRun '"' text
  if !control && !backslash && doubles = 0 && !newline then .basic
  else if !control && singles = 0 && !newline then .literal
  else if !control && !backslash && doubles ≤ 2 then .multilineBasic
  else if !control && singles ≤ 2 then .multilineLiteral
  else if newline then .multilineBasic
  else .basic

/-- The characters of a basic string. `run` counts the quotes just before, of which `most` may
stand without an escape. -/
def escapeBasic (multiline : Bool) (most : Nat) : Nat → List Char → String
  | _, [] => ""
  | run, c :: rest =>
    let run' := if c = '"' then run + 1 else 0
    let written :=
      if c = '"' then if most < run' then "\\\"" else "\""
      else if c = '\\' then "\\\\"
      else if c = '\t' then "\\t"
      else if c = '\n' then if multiline then "\n" else "\\n"
      else if c = '\r' then "\\r"
      else if c.toNat = 0x8 then "\\b"
      else if c.toNat = 0xC then "\\f"
      else if c.toNat < 0x20 || c.toNat = 0x7F then "\\u" ++ hex4 c.toNat
      else String.singleton c
    written ++ escapeBasic multiline most run' rest

/-- A string between quotes. Quotes for several lines begin with a line break when the string has
one. -/
def quoted (quotes : Quotes) (text : List Char) : String :=
  let lead := if text.contains '\n' then "\n" else ""
  match quotes with
  | .basic => quotes.mark ++ escapeBasic false 0 0 text ++ quotes.mark
  | .literal => quotes.mark ++ String.ofList text ++ quotes.mark
  | .multilineBasic => quotes.mark ++ lead ++ escapeBasic true 2 0 text ++ quotes.mark
  | .multilineLiteral => quotes.mark ++ lead ++ String.ofList text ++ quotes.mark

/-- Whether a character may stand in a key without quotes. -/
def isBareKeyChar (c : Char) : Bool :=
  c.isAlphanum || c == '-' || c == '_'

/-- A key, in quotes unless it is made of letters, digits, hyphens and underscores. -/
def renderKey (key : String) : String :=
  let text := key.toList
  let control := text.any fun c => isControl c || c == '\n'
  if !text.isEmpty && text.all isBareKeyChar then key
  else if !control && !text.contains '\\' && !text.contains '"' then quoted .basic text
  else if !control && !text.contains '\'' then quoted .literal text
  else quoted .basic text

/-- A floating-point number; a whole number keeps one zero after its point. -/
def renderFloat (x : Float) : String :=
  match Binary64.ofFloat x with
  | .nan => "nan"
  | .infinite negative => if negative then "-inf" else "inf"
  | .finite .. =>
    let text := FloatText.positional x
    if text.contains '.' then text else text ++ ".0"

mutual

/-- A value on the right of an equals sign. -/
def renderInline : Toml → String
  | .str value => quoted (.forValue value.toList) value.toList
  | .int value => toString value
  | .float value => renderFloat value
  | .bool value => if value then "true" else "false"
  | .time text => text
  | .arr [] => "[]"
  | .arr (item :: rest) => "[" ++ renderInline item ++ renderItems rest ++ "]"
  | .table [] => "\x7b\x7d"
  | .table ((name, value) :: rest) =>
    "\x7b " ++ renderKey name ++ " = " ++ renderInline value ++ renderEntries rest ++ " \x7d"

/-- The later items of an array. -/
def renderItems : List Toml → String
  | [] => ""
  | item :: rest => ", " ++ renderInline item ++ renderItems rest

/-- The later entries of an inline table. -/
def renderEntries : List (String × Toml) → String
  | [] => ""
  | (name, value) :: rest =>
    ", " ++ renderKey name ++ " = " ++ renderInline value ++ renderEntries rest

end

/-- Whether a value is a table. -/
def isTable : Toml → Bool
  | .table _ => true
  | _ => false

/-- Whether a value has sections of its own: a table, or an array of nothing but tables. -/
def hasSections : Toml → Bool
  | .table _ => true
  | .arr items => !items.isEmpty && items.all isTable
  | _ => false

/-- The lines of the entries without sections. -/
def renderBody (entries : List (String × Toml)) : String :=
  String.join <| (entries.filter fun entry => !entry.2.hasSections).map fun (name, value) =>
    renderKey name ++ " = " ++ renderInline value ++ "\n"

/-- The names of a section's header, with points between them. -/
def renderPath (path : List String) : String :=
  ".".intercalate (path.map renderKey)

mutual

/-- The sections of a value at a path: that of the table itself, unless it holds nothing but other
sections, and those of the tables in it. -/
def sections (path : List String) : Toml → List String
  | .table entries =>
    let body := renderBody entries
    let own :=
      if body.isEmpty && !entries.isEmpty then [] else ["[" ++ renderPath path ++ "]\n" ++ body]
    own ++ entrySections path entries
  | .arr items => if !items.isEmpty && items.all isTable then itemSections path items else []
  | _ => []

/-- The sections of the entries of a table. -/
def entrySections (path : List String) : List (String × Toml) → List String
  | [] => []
  | (name, value) :: rest => sections (path ++ [name]) value ++ entrySections path rest

/-- The sections of the tables of an array, each with a header of its own. -/
def itemSections (path : List String) : List Toml → List String
  | [] => []
  | .table entries :: rest =>
    ("[[" ++ renderPath path ++ "]]\n" ++ renderBody entries) :: entrySections path entries ++
      itemSections path rest
  | _ :: rest => itemSections path rest

end

/-- The text of a document: its own entries, then its sections with an empty line between each two
parts. -/
def render (entries : List (String × Toml)) : String :=
  let parts := renderBody entries :: entrySections [] entries
  "\n".intercalate (parts.filter (!·.isEmpty))

end BenchQueue.Toml
