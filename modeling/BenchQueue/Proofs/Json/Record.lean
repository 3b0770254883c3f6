import BenchQueue.Json.Record
import BenchQueue.Proofs.Members

/-!
# The fields of an object

A record holds, for each of its fields, the one member with the name of the field, wherever this member
stands among the others. So two objects have the same fields if they have the same values of each name.
-/

namespace BenchQueue.Json

variable {α : Type} {members members' : List (String × Json)} {names : List String} {name : String}
  {f : Json → Json} {r r' : Record} {decode : Json → Option α}

/-! ## The values of a name -/

/-- The first entry counts for its own name only. -/
theorem occurrences_cons (name : String) (entry : String × Json) (members : List (String × Json)) :
    occurrences name (entry :: members) =
      if name = entry.1 then entry.2 :: occurrences name members else occurrences name members := by
  by_cases h : name = entry.1
  · simp [occurrences, h]
  · simp [occurrences, h, Ne.symm h]

/-- A change of all values changes those that occur under a name, and keeps their order. -/
theorem occurrences_map_values (f : Json → Json) (name : String) (members : List (String × Json)) :
    occurrences name (members.map fun entry => (entry.1, f entry.2)) =
      (occurrences name members).map f := by
  simp [occurrences, List.filter_map, Function.comp_def]

/-- A name that is kept keeps all its values, and one that is not loses them all. -/
theorem occurrences_filter_names (keep : String → Bool) (name : String)
    (members : List (String × Json)) :
    occurrences name (members.filter fun entry => keep entry.1) =
      if keep name then occurrences name members else [] := by
  induction members with
  | nil => simp [occurrences]
  | cons entry members ih =>
    by_cases hname : name = entry.1
    · subst hname
      cases hkeep : keep entry.1 <;> simp [hkeep, occurrences_cons, ih]
    · cases hkeep : keep entry.1 <;> simp [hkeep, occurrences_cons, hname, ih]

/-- What is found under a name is its first value. -/
theorem find?_eq_head?_occurrences (members : List (String × Json)) (name : String) :
    Members.find? members name = (occurrences name members).head? := by
  induction members with
  | nil => rfl
  | cons entry members ih =>
    rw [Members.find?, occurrences_cons, ih]
    split
    all_goals rfl

/-- A name that is there once has at most one value. -/
theorem length_occurrences_le (h : (Members.names members).Nodup) (name : String) :
    (occurrences name members).length ≤ 1 := by
  have hcount := List.nodup_iff_count_le_one.mp h name
  rw [occurrences, List.length_map, ← List.countP_eq_length_filter]
  rwa [Members.names, List.count, List.countP_map] at hcount

/-- Sorting members with distinct names keeps the value of each name. -/
theorem occurrences_sort (h : (Members.names members).Nodup) (name : String) :
    occurrences name (Members.sort members) = occurrences name members := by
  have hperm : (occurrences name (Members.sort members)).Perm (occurrences name members) :=
    ((Members.sort_perm_iff.mpr h).filter _).map _
  have hlength := length_occurrences_le h name
  match hvalues : occurrences name members with
  | [] => exact List.perm_nil.mp (hvalues ▸ hperm)
  | [value] => exact List.perm_singleton.mp (hvalues ▸ hperm)
  | _ :: _ :: _ => rw [hvalues] at hlength; simp at hlength

/-! ## Records -/

/-- The fields of a record are those of another one, their values changed. -/
def Record.Changed (f : Json → Json) (names : List String) (r' r : Record) : Prop :=
  ∀ name ∈ names, Members.find? r' name = (Members.find? r name).map f

/-- What is found under a name that is kept does not depend on the entries that are dropped. -/
theorem find?_filter_names (h : name ∈ names) (members : List (String × Json)) :
    Members.find? (members.filter fun entry => names.contains entry.1) name =
      Members.find? members name := by
  induction members with
  | nil => rfl
  | cons entry members ih =>
    by_cases hlisted : entry.1 ∈ names
    · rw [List.filter_cons_of_pos (by simpa using hlisted), Members.find?, Members.find?, ih]
    · have hother : name ≠ entry.1 := fun hsame => hlisted (hsame ▸ h)
      rw [List.filter_cons_of_neg (by simpa using hlisted), Members.find?, if_neg hother, ih]

/-- Objects with the same values of each name, but for a change, have the same fields but for this
change, or are both no records. -/
theorem recordOfMembers_changed
    (h : ∀ name ∈ names, occurrences name members' = (occurrences name members).map f) :
    Option.Rel (Record.Changed f names) (recordOfMembers names members')
      (recordOfMembers names members) := by
  have honce : (names.all fun name => decide ((occurrences name members').length ≤ 1)) =
      names.all fun name => decide ((occurrences name members).length ≤ 1) := by
    rw [Bool.eq_iff_iff, List.all_eq_true, List.all_eq_true]
    refine forall₂_congr fun name hname => ?_
    rw [h name hname, List.length_map]
  rw [recordOfMembers, recordOfMembers, honce]
  split
  case isTrue =>
    refine Option.Rel.some fun name hname => ?_
    rw [find?_filter_names hname, find?_filter_names hname, find?_eq_head?_occurrences,
      find?_eq_head?_occurrences, h name hname, List.head?_map]
  case isFalse => exact Option.Rel.none

/-- What is computed from the fields of two records is the same if it does not depend on the change. -/
theorem Record.Changed.bind_eq {o o' : Option Record} {k : Record → Option α}
    (h : Option.Rel (Record.Changed f names) o' o)
    (hk : ∀ r' r, Record.Changed f names r' r → k r' = k r) : o'.bind k = o.bind k := by
  cases h with
  | some hchanged => exact hk _ _ hchanged
  | none => rfl

/-- An object with distinct names is a record. -/
theorem exists_recordOfMembers (h : (Members.names members).Nodup) (names : List String) :
    ∃ r, recordOfMembers names members = some r ∧
      ∀ name ∈ names, Members.find? r name = Members.find? members name := by
  refine ⟨_, if_pos (List.all_eq_true.mpr fun name _ => decide_eq_true (length_occurrences_le h name)),
    fun name hname => find?_filter_names hname members⟩

/-- A list of texts is read back. -/
theorem listOf_str?_map (texts : List String) :
    listOf str? (.arr (texts.map .str)) = some texts := by
  change (texts.map str).mapM str? = some texts
  induction texts with
  | nil => rfl
  | cons text texts ih => rw [List.map_cons, List.mapM_cons, ih]; rfl

/-- A required field that is there is what its value is read as. -/
theorem Record.required_of_find? {json : Json} (h : Members.find? r name = some json) :
    r.required name decode = decode json := by
  rw [Record.required, h, Option.bind_some]

/-- A field with a default that is there is what its value is read as. -/
theorem Record.defaulted_of_find? {json : Json} (h : Members.find? r name = some json) (default : α) :
    r.defaulted name default decode = decode json := by
  rw [Record.defaulted, h]

/-- A field with a default has the default, or comes from some value. -/
theorem Record.defaulted_cases {default value : α} (h : r.defaulted name default decode = some value) :
    value = default ∨ ∃ json, decode json = some value := by
  unfold defaulted at h
  split at h
  case h_1 => exact Or.inl (Option.some.inj h).symm
  case h_2 json _ => exact Or.inr ⟨json, h⟩

/-- A field that is left out or encodes a value. -/
theorem Record.optional_of_find? {encode : α → Json} {value : Option α}
    (h : Members.find? r name = value.map encode)
    (hdecode : ∀ a, nullable decode (encode a) = some (some a)) :
    r.optional name decode = some value := by
  rw [Record.optional, Record.defaulted, h]
  cases value with
  | none => rfl
  | some a => exact hdecode a

/-- A required field is read alike if its decoder does not notice the change of the values. -/
theorem Record.Changed.required (h : Record.Changed f names r' r) (hname : name ∈ names)
    (hdecode : ∀ json, decode (f json) = decode json) :
    r'.required name decode = r.required name decode := by
  rw [Record.required, Record.required, h name hname]
  cases Members.find? r name with
  | none => rfl
  | some json => exact hdecode json

/-- A field with a default is read alike if its decoder does not notice the change of the values. -/
theorem Record.Changed.defaulted (h : Record.Changed f names r' r) (hname : name ∈ names) (default : α)
    (hdecode : ∀ json, decode (f json) = decode json) :
    r'.defaulted name default decode = r.defaulted name default decode := by
  rw [Record.defaulted, Record.defaulted, h name hname]
  cases Members.find? r name with
  | none => rfl
  | some json => exact hdecode json

end BenchQueue.Json
