import BenchQueue.Proofs.Json.Record

/-!
# Canonical values

The canonical form of an object holds the canonical forms of its members, sorted by name. Taking it
twice is the same as taking it once, so the canonical values are those that are their own form.
-/

namespace BenchQueue.Json

variable {members : List (String × Json)}

/-- Every member keeps its name and its place, and its value becomes canonical. -/
theorem canonicalMembers_eq_map (members : List (String × Json)) :
    canonicalMembers members = members.map fun entry => (entry.1, canonical entry.2) := by
  induction members with
  | nil => rfl
  | cons entry members ih => rw [canonicalMembers, ih, List.map_cons]

/-- A finite number is canonical. -/
theorem canonical_float {x : Float} (h : x.isFinite = true) : (float x).canonical = float x := by
  rw [canonical, if_pos h]

mutual

/-- Taking the canonical form twice is the same as taking it once. -/
theorem canonical_canonical : ∀ json : Json, json.canonical.canonical = json.canonical
  | .null | .bool _ | .int _ | .str _ => rfl
  | .float x => by
    rw [canonical]
    split
    case isTrue h => exact canonical_float h
    case isFalse => rfl
  | .arr items => by rw [canonical, canonical, canonicalItems_canonicalItems items]
  | .obj members => by
    rw [canonical, canonical, canonicalMembers_eq_map (Members.sort _), ← Members.sort_map_values,
      ← canonicalMembers_eq_map, canonicalMembers_canonicalMembers members,
      (Members.increasing_sort _).sort_eq]

/-- Canonical items stay as they are. -/
theorem canonicalItems_canonicalItems :
    ∀ items : List Json, canonicalItems (canonicalItems items) = canonicalItems items
  | [] => rfl
  | item :: rest => by
    rw [canonicalItems, canonicalItems, canonical_canonical item, canonicalItems_canonicalItems rest]

/-- Canonical members stay as they are. -/
theorem canonicalMembers_canonicalMembers : ∀ members : List (String × Json),
    canonicalMembers (canonicalMembers members) = canonicalMembers members
  | [] => rfl
  | (name, value) :: rest => by
    rw [canonicalMembers, canonicalMembers, canonical_canonical value,
      canonicalMembers_canonicalMembers rest]

end

/-- The canonical form of an object with distinct names is a record, whose fields are the canonical forms
of the members. What is computed from these fields is computed from the form. -/
theorem record?_canonical_bind {α : Type} {names : List String} {k : Record → Option α}
    {result : Option α} (h : (Members.names members).Nodup)
    (hk : ∀ r : Record, (∀ name ∈ names,
      Members.find? r name = (Members.find? members name).map canonical) → k r = result) :
    ((obj members).canonical.record? names).bind k = result := by
  have hchanged : Option.Rel (Record.Changed canonical names)
      (recordOfMembers names (Members.sort (canonicalMembers members))) (recordOfMembers names members) :=
    recordOfMembers_changed fun name _ => by
      rw [canonicalMembers_eq_map, Members.sort_map_values, occurrences_map_values, occurrences_sort h]
  obtain ⟨r, hr, hfind⟩ := exists_recordOfMembers h names
  rw [hr] at hchanged
  rw [canonical, record?]
  cases hsorted : recordOfMembers names (Members.sort (canonicalMembers members)) with
  | none => rw [hsorted] at hchanged; cases hchanged
  | some r' =>
    rw [hsorted] at hchanged
    cases hchanged with
    | some hfields => exact hk r' fun name hname => by rw [hfields name hname, hfind name hname]

end BenchQueue.Json
