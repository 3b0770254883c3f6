import BenchQueue.Store.Memory

/-!
# What a write does to the records

An insertion adds a record whose identity is new, a change of status concerns the records with one
identity, and a write that fails changes nothing. So a write keeps every finished record unless it
changes the status of one.
-/

namespace BenchQueue.Store

open BenchQueue.Run (Record Status)

variable {m m' m'' : Memory} {r : Record} {id : Uuid} {call : Call}

namespace Memory

/-- A record is found if there is one with the identity. -/
theorem get?_isSome_iff : (m.get? id).isSome = true ↔ ∃ r ∈ m.records, r.id = id := by
  simp [get?, List.find?_isSome]

/-- A record is added at the end, unless its identity is taken. -/
theorem answer_insert (m : Memory) (record : Record) :
    m.answer (.insert record) =
      if (m.get? record.id).isSome then
        (.error (.database ("duplicate run id: " ++ record.id.text)), m)
      else (.ok (), ⟨m.records ++ [record]⟩) := by
  by_cases hsome : (m.get? record.id).isSome = true <;> simp [answer, insert, hsome]

/-- The status of every record with the identity changes, or there is none and nothing changes. -/
theorem answer_updateStatus (m : Memory) (id : Uuid) (status : Status) (at_ : Timestamp) :
    m.answer (.updateStatus id status at_) =
      if (m.get? id).isSome then
        (.ok (), ⟨m.records.map fun r => if r.id = id then r.withStatus status at_ else r⟩)
      else (.error (.runNotFound id), m) := by
  by_cases hsome : (m.get? id).isSome = true <;> simp [answer, updateStatus, hsome]

/-- An insertion fails if and only if there is a record with the identity. -/
theorem answer_insert_eq_error_iff (m : Memory) (record : Record) (e : Error) :
    (m.answer (.insert record)).1 = .error e ↔
      e = .database ("duplicate run id: " ++ record.id.text) ∧ (m.get? record.id).isSome = true := by
  rw [answer_insert]
  by_cases htaken : (m.get? record.id).isSome = true
  · rw [if_pos htaken]
    exact ⟨fun h => ⟨(Except.error.inj h).symm, htaken⟩, fun h => congrArg Except.error h.1.symm⟩
  · rw [if_neg htaken]
    exact ⟨nofun, fun h => absurd h.2 htaken⟩

/-- A change of status fails if and only if there is no record with the identity. -/
theorem answer_updateStatus_eq_error_iff (m : Memory) (id : Uuid) (status : Status) (at_ : Timestamp)
    (e : Error) :
    (m.answer (.updateStatus id status at_)).1 = .error e ↔
      e = .runNotFound id ∧ ¬ (m.get? id).isSome = true := by
  rw [answer_updateStatus]
  by_cases hthere : (m.get? id).isSome = true
  · rw [if_pos hthere]
    exact ⟨nofun, fun h => absurd hthere h.2⟩
  · rw [if_neg hthere]
    exact ⟨fun h => ⟨(Except.error.inj h).symm, hthere⟩, fun h => congrArg Except.error h.1.symm⟩

/-- A request that fails changes nothing. -/
theorem answer_of_error {e : Error} (h : (m.answer call).1 = .error e) : (m.answer call).2 = m := by
  cases call with
  | insert record =>
    rw [answer_insert] at h ⊢
    split at h
    case isTrue hsome => rw [if_pos hsome]
    case isFalse => cases h
  | updateStatus id status at_ =>
    rw [answer_updateStatus] at h ⊢
    split at h
    case isTrue => cases h
    case isFalse hnone => rw [if_neg hnone]
  | get _ | exists_ _ _ | findFinished _ | previousFinished _ _ _ | latestFinished _ => rfl

/-- An insertion fails, or the identity of the record is new and the record is added. -/
theorem answer_insert_cases (m : Memory) (record : Record) :
    (∃ e, m.answer (.insert record) = (.error e, m)) ∨
      (∀ r ∈ m.records, r.id ≠ record.id) ∧
        m.answer (.insert record) = (.ok (), ⟨m.records ++ [record]⟩) := by
  rw [answer_insert]
  by_cases hsome : (m.get? record.id).isSome = true
  · rw [if_pos hsome]
    exact Or.inl ⟨_, rfl⟩
  · rw [if_neg hsome]
    exact Or.inr ⟨fun r hr hid => hsome (get?_isSome_iff.mpr ⟨r, hr, hid⟩), rfl⟩

/-- A change of status fails, or it is made to the records with the identity. -/
theorem answer_updateStatus_cases (m : Memory) (id : Uuid) (status : Status) (at_ : Timestamp) :
    (∃ e, m.answer (.updateStatus id status at_) = (.error e, m)) ∨
      (∃ r ∈ m.records, r.id = id) ∧
        m.answer (.updateStatus id status at_) =
          (.ok (), ⟨m.records.map fun r => if r.id = id then r.withStatus status at_ else r⟩) := by
  rw [answer_updateStatus]
  by_cases hsome : (m.get? id).isSome = true
  · rw [if_pos hsome]
    exact Or.inr ⟨get?_isSome_iff.mp hsome, rfl⟩
  · rw [if_neg hsome]
    exact Or.inl ⟨_, rfl⟩

/-- An added record is found by its identity unless another one is found first. -/
theorem get?_append (m : Memory) (record : Record) (id : Uuid) :
    (⟨m.records ++ [record]⟩ : Memory).get? id =
      (m.get? id).or (if record.id = id then some record else none) := by
  by_cases hid : record.id = id <;> simp [get?, List.find?_append, hid]

/-- A record whose identity is new is found once it is added. -/
theorem get?_concat (hnew : ∀ other ∈ m.records, other.id ≠ r.id) :
    (⟨m.records ++ [r]⟩ : Memory).get? r.id = some r := by
  have hnone : m.get? r.id = none := by
    simpa [get?] using hnew
  rw [get?_append, hnone, if_pos rfl, Option.none_or]

/-- A change of status changes what is found by the identity, and nothing else. -/
theorem get?_map (m : Memory) (id other : Uuid) (status : Status) (at_ : Timestamp) :
    (⟨m.records.map fun r => if r.id = id then r.withStatus status at_ else r⟩ : Memory).get? other =
      (m.get? other).map fun r => if r.id = id then r.withStatus status at_ else r := by
  have hsame : (fun x : Record => decide (x.id = other)) ∘
      (fun x => if x.id = id then x.withStatus status at_ else x) =
        fun x => decide (x.id = other) := by
    funext x
    by_cases hx : x.id = id <;> simp [hx, Record.withStatus]
  rw [get?, List.find?_map, hsame, get?]

/-- After a change of its status, a record is found with the new status. -/
theorem get?_map_withStatus (h : m.get? id = some r) (status : Status) (at_ : Timestamp) :
    (⟨m.records.map fun r => if r.id = id then r.withStatus status at_ else r⟩ : Memory).get? id =
      some (r.withStatus status at_) := by
  have hid : r.id = id := by simpa using List.find?_some h
  rw [get?_map, h, Option.map_some, if_pos hid]

/-- The records with other identities are the same before and after. -/
def SameButFor (id : Uuid) (m m' : Memory) : Prop :=
  ∀ r : Record, r.id ≠ id → (r ∈ m'.records ↔ r ∈ m.records)

/-- Every finished record is still there. -/
def KeepsFinished (m m' : Memory) : Prop :=
  ∀ r ∈ m.records, r.status = .finished → r ∈ m'.records

/-- Records that stay as they are keep the finished ones. -/
theorem keepsFinished_refl (m : Memory) : KeepsFinished m m := fun _ hr _ => hr

/-- Two changes that keep the finished records keep them together. -/
theorem KeepsFinished.trans (h : KeepsFinished m m') (h' : KeepsFinished m' m'') :
    KeepsFinished m m'' :=
  fun r hr hfinished => h' r (h r hr hfinished) hfinished

/-- An inserted record makes a difference for its own identity only. -/
theorem sameButFor_insert (m : Memory) (record : Record) :
    SameButFor record.id m ⟨m.records ++ [record]⟩ := by
  intro r hid
  have hne : r ≠ record := fun heq => hid (congrArg Record.id heq)
  simp [hne]

/-- An inserted record leaves the finished ones. -/
theorem keepsFinished_insert (m : Memory) (record : Record) :
    KeepsFinished m ⟨m.records ++ [record]⟩ :=
  fun _ hr _ => List.mem_append_left _ hr

/-- A change of status changes no identity, so the records with other identities stay as they are. -/
theorem sameButFor_updateStatus (m : Memory) (id : Uuid) (status : Status) (at_ : Timestamp) :
    SameButFor id m ⟨m.records.map fun r => if r.id = id then r.withStatus status at_ else r⟩ := by
  intro r hid
  constructor
  · intro hr
    obtain ⟨old, hold, rfl⟩ := List.mem_map.mp hr
    by_cases hsame : old.id = id
    · rw [if_pos hsame] at hid
      exact absurd hsame hid
    · rwa [if_neg hsame]
  · intro hr
    exact List.mem_map.mpr ⟨r, hr, if_neg hid⟩

/-- A change of status keeps the finished records if it concerns only unfinished ones. -/
theorem keepsFinished_updateStatus (h : ∀ r ∈ m.records, r.id = id → r.status ≠ .finished)
    (status : Status) (at_ : Timestamp) :
    KeepsFinished m
      ⟨m.records.map fun r => if r.id = id then r.withStatus status at_ else r⟩ := by
  intro r hr hfinished
  have hother : r.id ≠ id := fun hid => h r hr hid hfinished
  exact List.mem_map.mpr ⟨r, hr, if_neg hother⟩

/-- A lookup finds a record that is there. -/
theorem answer_exists_of_mem {filter : Run.Filter} (hr : r ∈ m.records)
    (haccepts : filter.accepts r = true) :
    m.answer (.exists_ filter r.status) = (.ok true, m) := by
  have hany : (m.records.any fun x => x.status = r.status && filter.accepts x) = true :=
    List.any_eq_true.mpr ⟨r, hr, by simp [haccepts]⟩
  simp only [answer, hany]

end Memory

end BenchQueue.Store
