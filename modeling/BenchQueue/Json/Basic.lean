import BenchQueue.Members
/-!
# JSON values

A value keeps the distinction between integers and floating-point numbers, and an object keeps its
members in the order in which they were written, repeated names included. `Json.canonical` is the
form in which two values are compared: members sorted by name, the last of several with one name,
and no number that is not finite.
-/

namespace BenchQueue

/-- A JSON value. Integers lie between `-2 ^ 63` and `2 ^ 64 - 1` when they were read from a text.
-/
inductive Json
  | null
  | bool (value : Bool)
  | int (value : Int)
  | float (value : Float)
  | str (value : String)
  | arr (items : List Json)
  | obj (members : List (String × Json))

namespace Json

instance : Inhabited Json := ⟨.null⟩

mutual

/-- The value with the members of every object sorted, repeated names resolved in favour of the
last one, and null in place of a number that is not finite. -/
def canonical : Json → Json
  | .null => .null
  | .bool value => .bool value
  | .int value => .int value
  | .float value => if value.isFinite then .float value else .null
  | .str value => .str value
  | .arr items => .arr (canonicalItems items)
  | .obj members => .obj (Members.sort (canonicalMembers members))

/-- `canonical` on every item. -/
def canonicalItems : List Json → List Json
  | [] => []
  | item :: rest => canonical item :: canonicalItems rest

/-- `canonical` on every member's value. -/
def canonicalMembers : List (String × Json) → List (String × Json)
  | [] => []
  | (name, value) :: rest => (name, canonical value) :: canonicalMembers rest

end

mutual

/-- Whether two values are the same, floating-point numbers being compared as numbers. -/
def same : Json → Json → Bool
  | .null, .null => true
  | .bool a, .bool b => a == b
  | .int a, .int b => a == b
  | .float a, .float b => a == b
  | .str a, .str b => a == b
  | .arr a, .arr b => sameItems a b
  | .obj a, .obj b => sameMembers a b
  | _, _ => false

/-- Whether two lists of values are the same item by item. -/
def sameItems : List Json → List Json → Bool
  | [], [] => true
  | a :: as, b :: bs => same a b && sameItems as bs
  | _, _ => false

/-- Whether two lists of members have the same names and values in the same order. -/
def sameMembers : List (String × Json) → List (String × Json) → Bool
  | [], [] => true
  | (n, a) :: as, (m, b) :: bs => n == m && same a b && sameMembers as bs
  | _, _ => false

end

/-- The text of a string value. -/
def str? : Json → Option String
  | .str value => some value
  | _ => none

/-- The items of an array. -/
def arr? : Json → Option (List Json)
  | .arr items => some items
  | _ => none

/-- The members of an object. -/
def obj? : Json → Option (List (String × Json))
  | .obj members => some members
  | _ => none

/-- The truth value of a boolean. -/
def bool? : Json → Option Bool
  | .bool value => some value
  | _ => none

/-- The value of the first member of that name. -/
def get? (json : Json) (name : String) : Option Json :=
  json.obj?.bind (Members.find? · name)

end Json

end BenchQueue
