import BenchQueue.Json.Basic
/-!
# TOML values

The values of a TOML document, and their exchange with JSON values: a TOML value always has a JSON
form, in which a date or time is an object of one member; a JSON value has a TOML form unless it
holds a null or an integer beyond 63 bits somewhere. The name of a file has one if it is a text.
-/

namespace BenchQueue

/-- A TOML value. A date or time is kept as its normalized text. -/
inductive Toml
  | str (value : String)
  | int (value : Int)
  | float (value : Float)
  | bool (value : Bool)
  | time (text : String)
  | arr (items : List Toml)
  | table (entries : List (String × Toml))

namespace Toml

instance : Inhabited Toml := ⟨.table []⟩

/-- The name of the one member of an object that stands for a date or time. -/
def timeMember : String := "$__toml_private_datetime"

mutual

/-- The JSON form of a value. -/
def toJson : Toml → Json
  | .str value => .str value
  | .int value => .int value
  | .float value => .float value
  | .bool value => .bool value
  | .time text => .obj [(timeMember, .str text)]
  | .arr items => .arr (itemsToJson items)
  | .table entries => .obj (entriesToJson entries)

/-- The JSON forms of items. -/
def itemsToJson : List Toml → List Json
  | [] => []
  | item :: rest => toJson item :: itemsToJson rest

/-- The JSON forms of entries. -/
def entriesToJson : List (String × Toml) → List (String × Json)
  | [] => []
  | (name, value) :: rest => (name, toJson value) :: entriesToJson rest

end

/-- The least integer of a document. -/
def minInteger : Int := Int64.minValue.toInt

/-- The greatest integer of a document. -/
def maxInteger : Int := Int64.maxValue.toInt

/-- Why a JSON value or the name of a file has no TOML form. -/
inductive Unsupported
  | unit
  | outOfRange
  | fileName
  deriving DecidableEq, Repr

/-- The text about a missing TOML form. -/
def Unsupported.message : Unsupported → String
  | .unit => "unsupported unit type"
  | .outOfRange => "out-of-range value for u64 type"
  | .fileName => "path contains invalid UTF-8 characters"

mutual

/-- The TOML form of a JSON value. -/
def ofJson : Json → Except Unsupported Toml
  | .null => .error .unit
  | .bool value => .ok (.bool value)
  | .int value => if value ≤ maxInteger then .ok (.int value) else .error .outOfRange
  | .float value => .ok (.float value)
  | .str value => .ok (.str value)
  | .arr items => (itemsOfJson items).map .arr
  | .obj members => (entriesOfJson members).map .table

/-- The TOML forms of items. -/
def itemsOfJson : List Json → Except Unsupported (List Toml)
  | [] => .ok []
  | item :: rest => do
    let item ← ofJson item
    let rest ← itemsOfJson rest
    pure (item :: rest)

/-- The TOML forms of members. -/
def entriesOfJson : List (String × Json) → Except Unsupported (List (String × Toml))
  | [] => .ok []
  | (name, value) :: rest => do
    let value ← ofJson value
    let rest ← entriesOfJson rest
    pure ((name, value) :: rest)

end

/-- The TOML form of the name of a file, which is any bytes. -/
def ofFileName (name : ByteArray) : Except Unsupported Toml :=
  match String.fromUTF8? name with
  | some text => .ok (.str text)
  | none => .error .fileName

end Toml

end BenchQueue
