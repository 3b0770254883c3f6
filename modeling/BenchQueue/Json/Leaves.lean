import BenchQueue.Json.Basic
/-!
# The leaves of JSON values

`Json.mapLeaves` changes every value that is neither an array nor an object, and every name of a
member, and keeps the shape of the whole.
-/

namespace BenchQueue.Json

mutual

/-- The value with every leaf and every name changed. -/
def mapLeaves (leaf : Json → Json) (rename : String → String) : Json → Json
  | .arr items => .arr (mapLeavesItems leaf rename items)
  | .obj members => .obj (mapLeavesMembers leaf rename members)
  | json => leaf json

/-- `mapLeaves` on every item. -/
def mapLeavesItems (leaf : Json → Json) (rename : String → String) : List Json → List Json
  | [] => []
  | item :: rest => mapLeaves leaf rename item :: mapLeavesItems leaf rename rest

/-- `mapLeaves` on every member. -/
def mapLeavesMembers (leaf : Json → Json) (rename : String → String) :
    List (String × Json) → List (String × Json)
  | [] => []
  | (name, value) :: rest =>
    (rename name, mapLeaves leaf rename value) :: mapLeavesMembers leaf rename rest

end

/-- The value with every text changed, names included. -/
def mapTexts (f : String → String) : Json → Json :=
  mapLeaves (fun | .str text => .str (f text) | json => json) f

/-- The value with every floating-point number written in another way. -/
def mapFloats (f : Float → Json) : Json → Json :=
  mapLeaves (fun | .float x => f x | json => json) id

end BenchQueue.Json
