import BenchQueue.Json.Reader
import BenchQueue.Json.Record
import BenchQueue.Time.Duration
/-!
# Members of hand-written objects

Objects written by hand leave out what has a usual value, so their members are read with defaults. A
value may also be given as a text that holds it, under its name with `_text` behind it.
-/

namespace BenchQueue.Json

/-- A member that is there and not null. -/
def given? (json : Json) (name : String) : Option Json :=
  match json.get? name with
  | some .null => none
  | other => other

/-- The text of a member, or a default. -/
def textOr (json : Json) (name default : String) : String :=
  ((json.get? name).bind str?).getD default

/-- The value of an integer that is not negative. -/
def nat? : Json → Option Nat
  | .int n => if 0 ≤ n then some n.toNat else none
  | _ => none

/-- The number in a member, or a default. -/
def natOr (json : Json) (name : String) (default : Nat) : Nat :=
  ((json.get? name).bind nat?).getD default

/-- The truth value of a member, or a default. -/
def boolOr (json : Json) (name : String) (default : Bool) : Bool :=
  ((json.get? name).bind bool?).getD default

/-- The items of a member that is an array. -/
def itemsOf (json : Json) (name : String) : List Json :=
  ((json.get? name).bind arr?).getD []

/-- The members of a member that is an object. -/
def membersOf (json : Json) (name : String) : List (String × Json) :=
  ((json.get? name).bind obj?).getD []

/-- The texts of an array that holds nothing else. -/
def texts? (json : Json) : Option (List String) :=
  json.arr?.bind fun items => items.mapM str?

/-- The texts of a member that is an array of texts. -/
def textsOf (json : Json) (name : String) : List String :=
  ((json.get? name).bind texts?).getD []

/-- A value given as such or as a text that holds it; the outer option tells whether it is given at
all. -/
def embedded? (json : Json) (name : String) : Option (Option Json) :=
  match json.given? (name ++ "_text") with
  | some (.str text) => some (parse? text)
  | _ => (json.get? name).map some

/-- A value given as such or as a text that holds it. -/
def decodeEmbedded? {α : Type} (json : Json) (name : String) (decode : Json → Option α) :
    Option α :=
  ((json.embedded? name).bind id).bind decode

/-- A value given as such or as a text that holds it, or a default where neither is there. -/
def decodeEmbeddedOr? {α : Type} (json : Json) (name : String) (default : α)
    (decode : Json → Option α) : Option α :=
  match json.embedded? name with
  | none => some default
  | some value => value.bind decode

/-- A duration in milliseconds, or in seconds and nanoseconds. -/
def duration? (json : Json) : Option Duration :=
  match json with
  | .int n => if 0 ≤ n then Duration.ofNanos? (n.toNat * nanosPerMilli) else none
  | _ => Duration.ofNanos? (json.natOr "secs" 0 * nanosPerSecond + json.natOr "nanos" 0)

/-- A number, or the name of one that JSON cannot write. -/
def anyFloat? : Json → Option Float
  | .str "nan" => some (0.0 / 0.0)
  | .str "inf" => some (1.0 / 0.0)
  | .str "-inf" => some (-1.0 / 0.0)
  | json => json.float?

end BenchQueue.Json
