import BenchQueue.Proofs.Json.Canonical

/-!
# The order of members

Members with different names may stand in any order. The ordered form of a value has the members of every
object in the order of their names, and still all of those that share one. Two values with one ordered form
have the same canonical form, and are no different for a decoder of records.
-/

namespace BenchQueue.Json

variable {α : Type} {names : List String} {name : String} {r r' : Record} {decode : Json → Option α}

/-! ## The ordered form -/

mutual

/-- The value with the members of every object in the order of their names. -/
def ordered : Json → Json
  | .null => .null
  | .bool value => .bool value
  | .int value => .int value
  | .float value => .float value
  | .str value => .str value
  | .arr items => .arr (orderedItems items)
  | .obj members => .obj (Members.byName (orderedMembers members))

/-- `ordered` on every item. -/
def orderedItems : List Json → List Json
  | [] => []
  | item :: rest => ordered item :: orderedItems rest

/-- `ordered` on every member's value. -/
def orderedMembers : List (String × Json) → List (String × Json)
  | [] => []
  | (name, value) :: rest => (name, ordered value) :: orderedMembers rest

end

/-- The items stay in their places, each of them put in order. -/
theorem orderedItems_eq_map (items : List Json) : orderedItems items = items.map ordered := by
  induction items with
  | nil => rfl
  | cons item items ih => rw [orderedItems, ih, List.map_cons]

/-- The members keep their names, each value put in order. -/
theorem orderedMembers_eq_map (members : List (String × Json)) :
    orderedMembers members = members.map fun entry => (entry.1, ordered entry.2) := by
  induction members with
  | nil => rfl
  | cons entry members ih => rw [orderedMembers, ih, List.map_cons]

/-- The values of a name are put in order, each for itself. -/
theorem occurrences_ordered (name : String) (members : List (String × Json)) :
    occurrences name (Members.byName (orderedMembers members)) =
      (occurrences name members).map ordered := by
  rw [← occurrences_map_values, ← orderedMembers_eq_map, occurrences, occurrences,
    Members.filter_byName]

mutual

/-- Values that differ in nothing but the order of members have the same canonical form. -/
theorem canonical_ordered : ∀ json : Json, json.ordered.canonical = json.canonical
  | .null | .bool _ | .int _ | .float _ | .str _ => rfl
  | .arr items => by rw [ordered, canonical, canonical, canonicalItems_ordered items]
  | .obj members => by
    have hvalues := canonicalMembers_ordered members
    rw [ordered, canonical, canonical, canonicalMembers_eq_map, ← Members.byName_map_values,
      ← canonicalMembers_eq_map, Members.sort_byName, hvalues]

/-- What becomes of items does not depend on the order of members in them. -/
theorem canonicalItems_ordered :
    ∀ items : List Json, canonicalItems (orderedItems items) = canonicalItems items
  | [] => rfl
  | item :: rest => by
    rw [orderedItems, canonicalItems, canonicalItems, canonical_ordered item,
      canonicalItems_ordered rest]

/-- What becomes of members does not depend on the order of members in their values. -/
theorem canonicalMembers_ordered : ∀ members : List (String × Json),
    canonicalMembers (orderedMembers members) = canonicalMembers members
  | [] => rfl
  | (name, value) :: rest => by
    rw [orderedMembers, canonicalMembers, canonicalMembers, canonical_ordered value,
      canonicalMembers_ordered rest]

end

/-- The members of certain names have the same sorted canonical form in every order. -/
theorem sort_canonical_filter_ordered (keep : String → Bool) (members : List (String × Json)) :
    Members.sort (canonicalMembers
        ((Members.byName (orderedMembers members)).filter fun entry => keep entry.1)) =
      Members.sort (canonicalMembers (members.filter fun entry => keep entry.1)) := by
  refine Members.sort_congr fun name => ?_
  change occurrences name (canonicalMembers _) = occurrences name (canonicalMembers _)
  rw [canonicalMembers_eq_map, canonicalMembers_eq_map, occurrences_map_values, occurrences_map_values,
    occurrences_filter_names, occurrences_filter_names, occurrences_ordered]
  split
  case isTrue => rw [List.map_map]; exact List.map_congr_left fun value _ => canonical_ordered value
  case isFalse => rfl

/-! ## Decoders -/

/-- A decoder to which the order of members does not matter. -/
def OrderFree (decode : Json → Option α) : Prop := ∀ json : Json, decode json.ordered = decode json

/-- A text has no members whose order could matter. -/
theorem orderFree_str? : OrderFree str? := by
  intro json
  cases json <;> rfl

/-- Whether a value is missing does not depend on the order of members. -/
theorem OrderFree.nullable (h : OrderFree decode) : OrderFree (nullable decode) := by
  intro json
  have hjson := h json
  cases json with
  | null => rfl
  | _ => exact congrArg (Option.map some) hjson

/-- A decoder of lists is as free of the order as that of their items. -/
theorem OrderFree.listOf (h : OrderFree decode) : OrderFree (listOf decode) := by
  intro json
  cases json with
  | arr items =>
    change (orderedItems items).mapM decode = items.mapM decode
    induction items with
    | nil => rfl
    | cons item items ih => rw [orderedItems, List.mapM_cons, List.mapM_cons, h, ih]
  | _ => rfl

/-- The decoder of an object whose members are free. -/
theorem orderFree_obj? : OrderFree fun json => json.obj?.map fun members =>
    Members.sort (members.map fun entry => (entry.1, entry.2.canonical)) := by
  intro json
  cases json with
  | obj members =>
    have hmembers := obj.inj (canonical_ordered (.obj members))
    rw [canonicalMembers_eq_map, canonicalMembers_eq_map] at hmembers
    exact congrArg some hmembers
  | _ => rfl

/-- A field with a default is read alike from a record whose values were put in order. -/
theorem OrderFree.defaulted (hdecode : OrderFree decode) (h : Record.Changed ordered names r' r)
    (hname : name ∈ names) (default : α) :
    r'.defaulted name default decode = r.defaulted name default decode :=
  h.defaulted hname default hdecode

/-- A field that may be missing is read alike from a record whose values were put in order. -/
theorem OrderFree.optional (hdecode : OrderFree decode) (h : Record.Changed ordered names r' r)
    (hname : name ∈ names) : r'.optional name decode = r.optional name decode :=
  hdecode.nullable.defaulted h hname none

/-- The fields of a record are the same ones, in their ordered forms. -/
theorem record?_ordered (names : List String) (json : Json) :
    Option.Rel (Record.Changed ordered names) (json.ordered.record? names) (json.record? names) := by
  cases json with
  | obj members => exact recordOfMembers_changed fun name _ => occurrences_ordered name members
  | arr items =>
    rw [ordered, record?, record?, orderedItems_eq_map, List.length_map]
    split
    case isTrue =>
      refine Option.Rel.some fun name _ => ?_
      rw [List.zip_map_right]
      exact Members.find?_map_values ordered (names.zip items) name
    case isFalse => exact Option.Rel.none
  | _ => exact Option.Rel.none

/-- What is computed from the decoded fields of a record does not depend on the order of members. -/
theorem orderFree_record? {k : Record → Option α}
    (h : ∀ r' r, Record.Changed ordered names r' r → k r' = k r) :
    OrderFree fun json => (json.record? names).bind k :=
  fun json => Record.Changed.bind_eq (record?_ordered names json) h

end BenchQueue.Json
