import BenchQueue.Json.Basic
/-!
# Decoding records

A record with named fields is written as an object, or as an array of its fields in their order.
An object may have members that no field takes; a field given twice, and an array longer than the
list of fields, are refused. A member that is absent takes its default, if it has one.
-/

namespace BenchQueue.Json

/-- The fields of a record that are present, by name. -/
abbrev Record := Members Json

/-- The values of the members of that name. -/
def occurrences (name : String) (members : List (String × Json)) : List Json :=
  (members.filter (·.1 == name)).map (·.2)

/-- The fields of those names that an object has; none if one is there more than once. -/
def recordOfMembers (names : List String) (members : List (String × Json)) : Option Record :=
  if names.all fun name => (occurrences name members).length ≤ 1 then
    some (members.filter fun member => names.contains member.1)
  else none

/-- The fields of those names in an object or an array. -/
def record? (names : List String) : Json → Option Record
  | .obj members => recordOfMembers names members
  | .arr items => if items.length ≤ names.length then some (names.zip items) else none
  | _ => none

/-- A field that must be there. -/
def Record.required {α : Type} (r : Record) (name : String) (decode : Json → Option α) : Option α :=
  (Members.find? r name).bind decode

/-- A field with a default. -/
def Record.defaulted {α : Type} (r : Record) (name : String) (default : α)
    (decode : Json → Option α) : Option α :=
  match Members.find? r name with
  | none => some default
  | some json => decode json

/-- A value or null. -/
def nullable {α : Type} (decode : Json → Option α) : Json → Option (Option α)
  | .null => some none
  | json => (decode json).map some

/-- A field that may be absent or null. -/
def Record.optional {α : Type} (r : Record) (name : String) (decode : Json → Option α) :
    Option (Option α) :=
  r.defaulted name none (nullable decode)

/-- An array of values of one kind. -/
def listOf {α : Type} (decode : Json → Option α) (json : Json) : Option (List α) :=
  json.arr?.bind (·.mapM decode)

/-- An integer without a sign of 64 bits. -/
def uint64? : Json → Option UInt64
  | .int n => if 0 ≤ n ∧ n < UInt64.size then some (UInt64.ofNat n.toNat) else none
  | _ => none

/-- An integer without a sign of 32 bits. -/
def uint32? : Json → Option UInt32
  | .int n => if 0 ≤ n ∧ n < UInt32.size then some (UInt32.ofNat n.toNat) else none
  | _ => none

/-- An integer of 32 bits. -/
def int32? : Json → Option Int32
  | .int n =>
    if Int32.minValue.toInt ≤ n ∧ n ≤ Int32.maxValue.toInt then some (Int32.ofInt n) else none
  | _ => none

/-- A number as a double; an integer is rounded. -/
def float? : Json → Option Float
  | .float x => some x
  | .int n =>
    let magnitude := (UInt64.ofNat n.natAbs).toFloat
    some (if n < 0 then -magnitude else magnitude)
  | _ => none

/-- A value for an absent one. -/
def ofOption {α : Type} (encode : α → Json) : Option α → Json
  | none => .null
  | some a => encode a

end BenchQueue.Json
