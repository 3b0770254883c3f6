import BenchQueue.Proofs.Json.Order
import BenchQueue.Toml.Printer
import BenchQueue.Toml.Reader

/-!
# Values and their TOML forms

A JSON value has a TOML form unless there is a null or an integer beyond 63 bits in it, at any depth, and
the form is read as the same value. The name of a file has a form if it is a text. Entries may be written in
any order: the values of two documents with one ordered form have one ordered form themselves.
-/

namespace BenchQueue

/-! ## Parts of a value -/

namespace Json

/-- A value is a part of another one, at any depth. -/
inductive Within (part : Json) : Json → Prop
  | self : Within part part
  | item {items : List Json} {item : Json} : item ∈ items → Within part item →
      Within part (.arr items)
  | member {members : List (String × Json)} {entry : String × Json} : entry ∈ members →
      Within part entry.2 → Within part (.obj members)

/-- There is a null or an integer beyond 63 bits in the value. -/
def BeyondToml (json : Json) : Prop :=
  ∃ part, Within part json ∧ (part = .null ∨ ∃ n, Toml.maxInteger < n ∧ part = .int n)

/-- An array cannot be written exactly if one of its items cannot. -/
theorem beyondToml_arr {items : List Json} :
    (arr items).BeyondToml ↔ ∃ item ∈ items, item.BeyondToml := by
  constructor
  · rintro ⟨part, hwithin, hpart⟩
    cases hwithin with
    | self => rcases hpart with hnull | ⟨n, -, hint⟩ <;> contradiction
    | item hmem hwithin => exact ⟨_, hmem, part, hwithin, hpart⟩
  · rintro ⟨item, hmem, part, hwithin, hpart⟩
    exact ⟨part, .item hmem hwithin, hpart⟩

/-- An object cannot be written exactly if the value of one of its members cannot. -/
theorem beyondToml_obj {members : List (String × Json)} :
    (obj members).BeyondToml ↔ ∃ entry ∈ members, entry.2.BeyondToml := by
  constructor
  · rintro ⟨part, hwithin, hpart⟩
    cases hwithin with
    | self => rcases hpart with hnull | ⟨n, -, hint⟩ <;> contradiction
    | member hmem hwithin => exact ⟨_, hmem, part, hwithin, hpart⟩
  · rintro ⟨entry, hmem, part, hwithin, hpart⟩
    exact ⟨part, .member hmem hwithin, hpart⟩

end Json

namespace Toml

/-! ## The form of a value -/

section Results

variable {α β γ : Type} {x : Except Unsupported α} {y : Except Unsupported β} {g : α → β}
  {f : α → β → γ}

/-- A mapped result that is there comes from a result. -/
theorem map_eq_ok {b : β} (h : x.map g = .ok b) : ∃ a, x = .ok a ∧ g a = b := by
  cases x with
  | error cause => cases h
  | ok a => exact ⟨a, rfl, Except.ok.inj h⟩

/-- A mapped result fails exactly if the result does. -/
theorem map_eq_error_iff : (∃ cause, x.map g = .error cause) ↔ ∃ cause, x = .error cause := by
  cases x with
  | error cause => exact ⟨fun _ => ⟨cause, rfl⟩, fun _ => ⟨cause, rfl⟩⟩
  | ok a => exact ⟨nofun, nofun⟩

/-- Two results that are combined are both there if their combination is. -/
theorem both_eq_ok {c : γ} (h : (do let a ← x; let b ← y; pure (f a b)) = Except.ok c) :
    ∃ a b, x = .ok a ∧ y = .ok b ∧ f a b = c := by
  cases x with
  | error cause => cases h
  | ok a =>
    cases y with
    | error cause => cases h
    | ok b => exact ⟨a, b, rfl, rfl, Except.ok.inj h⟩

/-- Two results that are combined fail exactly if one of them does. -/
theorem both_eq_error_iff :
    (∃ cause, (do let a ← x; let b ← y; pure (f a b)) = Except.error cause) ↔
      (∃ cause, x = .error cause) ∨ ∃ cause, y = .error cause := by
  cases x with
  | error cause => exact ⟨fun _ => .inl ⟨cause, rfl⟩, fun _ => ⟨cause, rfl⟩⟩
  | ok a =>
    cases y with
    | error cause => exact ⟨fun _ => .inr ⟨cause, rfl⟩, fun _ => ⟨cause, rfl⟩⟩
    | ok b => exact ⟨nofun, nofun⟩

end Results

mutual

/-- The form of a value is read as this value. -/
theorem toJson_of_ofJson : ∀ {json : Json} {form : Toml}, ofJson json = .ok form → form.toJson = json
  | .null, _, h => nomatch h
  | .bool _, _, h | .float _, _, h | .str _, _, h => by cases h; rfl
  | .int n, _, h => by
    rw [ofJson] at h
    split at h <;> cases h
    rfl
  | .arr items, _, h => by
    obtain ⟨forms, hforms, rfl⟩ := map_eq_ok h
    rw [toJson, itemsToJson_of_itemsOfJson hforms]
  | .obj members, _, h => by
    obtain ⟨forms, hforms, rfl⟩ := map_eq_ok h
    rw [toJson, entriesToJson_of_entriesOfJson hforms]

/-- Items that could be converted are converted back to the same items. -/
theorem itemsToJson_of_itemsOfJson : ∀ {items : List Json} {forms : List Toml},
    itemsOfJson items = .ok forms → itemsToJson forms = items
  | [], _, h => by cases h; rfl
  | item :: rest, _, h => by
    obtain ⟨form, forms, hform, hforms, rfl⟩ := both_eq_ok h
    rw [itemsToJson, toJson_of_ofJson hform, itemsToJson_of_itemsOfJson hforms]

/-- Members that could be converted are converted back to the same members. -/
theorem entriesToJson_of_entriesOfJson : ∀ {members : List (String × Json)}
    {forms : List (String × Toml)}, entriesOfJson members = .ok forms → entriesToJson forms = members
  | [], _, h => by cases h; rfl
  | (name, value) :: rest, _, h => by
    obtain ⟨form, forms, hform, hforms, rfl⟩ := both_eq_ok h
    rw [entriesToJson, toJson_of_ofJson hform, entriesToJson_of_entriesOfJson hforms]

end

mutual

/-- Only a null or an integer beyond 63 bits keeps a value from having a form. -/
theorem ofJson_eq_error_iff : ∀ {json : Json},
    (∃ cause, ofJson json = .error cause) ↔ json.BeyondToml
  | .null => ⟨fun _ => ⟨_, .self, .inl rfl⟩, fun _ => ⟨_, rfl⟩⟩
  | .bool _ | .float _ | .str _ => by
    refine ⟨nofun, fun ⟨part, hwithin, hpart⟩ => ?_⟩
    cases hwithin
    rcases hpart with hnull | ⟨n, -, hint⟩ <;> contradiction
  | .int n => by
    rw [ofJson]
    constructor
    · rintro ⟨cause, herror⟩
      split at herror <;> cases herror
      exact ⟨_, .self, .inr ⟨n, not_le.mp ‹_›, rfl⟩⟩
    · rintro ⟨part, hwithin, hpart⟩
      cases hwithin
      obtain hnull | ⟨_, hbeyond, ⟨⟩⟩ := hpart
      · cases hnull
      · exact ⟨_, if_neg (not_le.mpr hbeyond)⟩
  | .arr _ => by rw [ofJson, map_eq_error_iff, itemsOfJson_eq_error_iff, Json.beyondToml_arr]
  | .obj _ => by rw [ofJson, map_eq_error_iff, entriesOfJson_eq_error_iff, Json.beyondToml_obj]

/-- Items cannot be converted exactly if one of them is beyond the format. -/
theorem itemsOfJson_eq_error_iff : ∀ {items : List Json},
    (∃ cause, itemsOfJson items = .error cause) ↔ ∃ item ∈ items, item.BeyondToml
  | [] => by simp [itemsOfJson]
  | item :: rest => by
    rw [itemsOfJson, both_eq_error_iff, ofJson_eq_error_iff, itemsOfJson_eq_error_iff,
      List.exists_mem_cons_iff]

/-- Members cannot be converted exactly if the value of one of them is beyond the format. -/
theorem entriesOfJson_eq_error_iff : ∀ {members : List (String × Json)},
    (∃ cause, entriesOfJson members = .error cause) ↔ ∃ entry ∈ members, entry.2.BeyondToml
  | [] => by simp [entriesOfJson]
  | (name, value) :: rest => by
    rw [entriesOfJson, both_eq_error_iff, ofJson_eq_error_iff, entriesOfJson_eq_error_iff,
      List.exists_mem_cons_iff]

end

/-! ## The name of a file -/

variable {name : ByteArray}

/-- The form of a name is that of the text that it spells. -/
theorem ofFileName_toUTF8 (text : String) : ofFileName text.toUTF8 = .ok (.str text) := by
  have hread : String.fromUTF8? text.toUTF8 = some text := dif_pos text.isValidUTF8
  rw [ofFileName, hread]

/-- The name of a file cannot be written exactly if it is not valid text. -/
theorem ofFileName_eq_error_iff : (∃ cause, ofFileName name = .error cause) ↔ ¬ name.IsValidUTF8 := by
  constructor
  · rintro ⟨cause, herror⟩ hvalid
    have hnone := ofFileName_toUTF8 (String.fromUTF8 name hvalid)
    change ofFileName name = _ at hnone
    rw [hnone] at herror
    cases herror
  · intro hinvalid
    have hread : String.fromUTF8? name = none := dif_neg hinvalid
    exact ⟨.fileName, by rw [ofFileName, hread]⟩

/-! ## The order of entries -/

mutual

/-- The value with the entries of every table in the order of their names. -/
def ordered : Toml → Toml
  | .str value => .str value
  | .int value => .int value
  | .float value => .float value
  | .bool value => .bool value
  | .time text => .time text
  | .arr items => .arr (orderedItems items)
  | .table entries => .table (Members.byName (orderedEntries entries))

/-- `ordered` on every item. -/
def orderedItems : List Toml → List Toml
  | [] => []
  | item :: rest => ordered item :: orderedItems rest

/-- `ordered` on every entry's value. -/
def orderedEntries : List (String × Toml) → List (String × Toml)
  | [] => []
  | (name, value) :: rest => (name, ordered value) :: orderedEntries rest

end

/-- Every item is converted in its place. -/
theorem itemsToJson_eq_map (items : List Toml) : itemsToJson items = items.map toJson := by
  induction items with
  | nil => rfl
  | cons item items ih => rw [itemsToJson, ih, List.map_cons]

/-- Every entry keeps its name and place, and its value is converted. -/
theorem entriesToJson_eq_map (entries : List (String × Toml)) :
    entriesToJson entries = entries.map fun entry => (entry.1, toJson entry.2) := by
  induction entries with
  | nil => rfl
  | cons entry entries ih => rw [entriesToJson, ih, List.map_cons]

/-- Entries are converted one after the other. -/
theorem entriesToJson_append (entries others : List (String × Toml)) :
    entriesToJson (entries ++ others) = entriesToJson entries ++ entriesToJson others := by
  rw [entriesToJson_eq_map, entriesToJson_eq_map, entriesToJson_eq_map, List.map_append]

mutual

/-- A value and its JSON form are put in order alike. -/
theorem toJson_ordered : ∀ t : Toml, t.ordered.toJson = t.toJson.ordered
  | .str _ | .int _ | .float _ | .bool _ | .time _ => rfl
  | .arr items => by rw [ordered, toJson, toJson, Json.ordered, itemsToJson_ordered items]
  | .table entries => by
    rw [ordered, toJson, toJson, Json.ordered, ← entriesToJson_ordered entries, entriesToJson_eq_map,
      entriesToJson_eq_map, Members.byName_map_values]

/-- Items may be put in order before or after they are converted. -/
theorem itemsToJson_ordered :
    ∀ items : List Toml, itemsToJson (orderedItems items) = Json.orderedItems (itemsToJson items)
  | [] => rfl
  | item :: rest => by
    rw [orderedItems, itemsToJson, itemsToJson, Json.orderedItems, toJson_ordered item,
      itemsToJson_ordered rest]

/-- Entries may be put in order before or after they are converted. -/
theorem entriesToJson_ordered : ∀ entries : List (String × Toml),
    entriesToJson (orderedEntries entries) = Json.orderedMembers (entriesToJson entries)
  | [] => rfl
  | (name, value) :: rest => by
    rw [orderedEntries, entriesToJson, entriesToJson, Json.orderedMembers, toJson_ordered value,
      entriesToJson_ordered rest]

end

/-- The text of a document is read as this document, but for the order of entries. -/
def ReadsBack (document : List (String × Toml)) : Prop :=
  ∃ t, parse? (render document) = some t ∧ t.ordered = (table document).ordered

end Toml

end BenchQueue
