import BenchQueue.Proofs.Store.Recency

/-!
# Records and their histories

What a store in memory holds for an identity is decided by the requests about this identity: the first
insertion brings the record, and the changes of status after it are made to it one after the other. So
the record has the status of the last change, the time of the last change to a start and the time of the
last change to an end; everything else is as it was inserted. A write fails exactly if its identity is
taken or missing, and then nothing changes.
-/

namespace BenchQueue.Run

/-! ## Changes of status -/

/-- A new status and the time of the change. -/
abbrev StatusChange := Status × Timestamp

/-- The time of the last change to a status of a kind. -/
def lastTime? (kind : Status → Prop) [DecidablePred kind] (changes : List StatusChange) :
    Option Timestamp :=
  (changes.filter fun change => kind change.1).getLast?.map (·.2)

/-- The later changes count first, the earlier ones only if none of the later is of the kind. -/
theorem lastTime?_append (kind : Status → Prop) [DecidablePred kind]
    (changes more : List StatusChange) :
    lastTime? kind (changes ++ more) = (lastTime? kind more).or (lastTime? kind changes) := by
  simp only [lastTime?, List.filter_append, List.getLast?_append, Option.map_or]

namespace Record

/-- The record after changes of its status: the last one sets the status, the last start and the last
end set the time of it. -/
def changed (r : Record) (changes : List StatusChange) : Record :=
  { r with
    status := (changes.getLast?.map (·.1)).getD r.status
    startedAt := (lastTime? (· = .started) changes).or r.startedAt
    finishedAt := (lastTime? (fun s => s = .finished ∨ s = .failed) changes).or r.finishedAt }

/-- Changes are made one after the other. -/
theorem changed_append (r : Record) (changes more : List StatusChange) :
    r.changed (changes ++ more) = (r.changed changes).changed more := by
  simp only [changed, lastTime?_append, Option.or_assoc, List.getLast?_append, Option.map_or,
    Option.getD_or]

/-- One change of status is what a store makes of it. -/
theorem changed_singleton (r : Record) (status : Status) (at_ : Timestamp) :
    r.changed [(status, at_)] = r.withStatus status at_ := by
  cases status <;> simp [changed, withStatus, lastTime?, Status.isTerminal]

end Record

end BenchQueue.Run

namespace BenchQueue.Store

open BenchQueue.Run (Record Status StatusChange)

variable {m : Memory} {r : Record} {id : Uuid} {call : Call} {calls later : List Call}

/-! ## Histories -/

/-- A record with an identity was to be inserted. -/
def Inserted (id : Uuid) (calls : List Call) : Prop :=
  ∃ r : Record, .insert r ∈ calls ∧ r.id = id

/-- A record is the first one that was to be inserted with its identity, and some requests came
later. -/
def InsertedFirst (calls : List Call) (r : Record) (later : List Call) : Prop :=
  ∃ before, calls = before ++ .insert r :: later ∧ ¬ Inserted r.id before

/-- The change of status that a request asks for, if it is about an identity. -/
def Call.change? (id : Uuid) : Call → Option StatusChange
  | .updateStatus other status at_ => if other = id then some (status, at_) else none
  | .insert _ | .get _ | .exists_ _ _ | .findFinished _ | .previousFinished _ _ _
  | .latestFinished _ => none

/-- The changes of status that were asked for about an identity, the first one first. -/
def changes (id : Uuid) (calls : List Call) : List StatusChange :=
  calls.filterMap (Call.change? id)

/-- A record was to be inserted by the first request or by a later one. -/
theorem inserted_cons :
    Inserted id (call :: calls) ↔ (∃ r : Record, call = .insert r ∧ r.id = id) ∨ Inserted id calls := by
  simp only [Inserted, List.mem_cons, or_and_right, exists_or, eq_comm]

/-- If a record with an identity was inserted, one was the first. -/
theorem Inserted.first (h : Inserted id calls) :
    ∃ r later, InsertedFirst calls r later ∧ r.id = id := by
  induction calls with
  | nil =>
    obtain ⟨r, hmem, -⟩ := h
    exact absurd hmem List.not_mem_nil
  | cons call rest ih =>
    by_cases hcall : ∃ r : Record, call = .insert r ∧ r.id = id
    · obtain ⟨r, rfl, hid⟩ := hcall
      refine ⟨r, rest, ⟨[], rfl, ?_⟩, hid⟩
      simp [Inserted]
    · obtain ⟨r, later, ⟨before, rfl, hnone⟩, rfl⟩ := ih ((inserted_cons.mp h).resolve_left hcall)
      refine ⟨r, later, ⟨call :: before, rfl, ?_⟩, rfl⟩
      rw [inserted_cons, not_or]
      exact ⟨hcall, hnone⟩

/-! ## One request -/

namespace Memory

/-- Only the insertion of a record brings it. -/
theorem get?_answer_of_none (h : m.get? id = none)
    (hcall : ¬ ∃ r : Record, call = .insert r ∧ r.id = id) : (m.answer call).2.get? id = none := by
  cases call with
  | insert record =>
    have hother : record.id ≠ id := fun hid => hcall ⟨record, rfl, hid⟩
    rw [answer_insert]
    split
    · exact h
    · rw [get?_append, h, if_neg hother]
      rfl
  | updateStatus other status at_ =>
    rw [answer_updateStatus]
    split
    · rw [get?_map, h, Option.map_none]
    · exact h
  | get _ | exists_ _ _ | findFinished _ | previousFinished _ _ _ | latestFinished _ => exact h

/-- A record with a new identity is found as it was inserted. -/
theorem get?_answer_insert (h : m.get? r.id = none) : (m.answer (.insert r)).2.get? r.id = some r := by
  rw [answer_insert, h]
  change (⟨m.records ++ [r]⟩ : Memory).get? r.id = some r
  rw [get?_append, h, if_pos rfl, Option.none_or]

/-- A record that is there changes by the requests about its identity. -/
theorem get?_answer_of_some (h : m.get? id = some r) (call : Call) :
    (m.answer call).2.get? id = some (r.changed (call.change? id).toList) := by
  cases call with
  | insert record =>
    rw [answer_insert]
    split
    · exact h
    · rw [get?_append, h]
      rfl
  | updateStatus other status at_ =>
    have hid : r.id = id := by simpa using List.find?_some h
    rw [answer_updateStatus, Call.change?]
    by_cases hsame : other = id
    · subst hsame
      rw [if_pos (by rw [h]; rfl), if_pos rfl, get?_map, h, Option.map_some, if_pos hid]
      exact congrArg some (r.changed_singleton status at_).symm
    · rw [if_neg hsame]
      split
      · rw [get?_map, h, Option.map_some, if_neg fun heq => hsame (heq.symm.trans hid)]
        rfl
      · exact h
  | get _ | exists_ _ _ | findFinished _ | previousFinished _ _ _ | latestFinished _ => exact h

/-! ## Many requests -/

/-- A record that is there has, after some requests, gone through the changes that they ask for. -/
theorem get?_after_of_some (h : m.get? id = some r) (calls : List Call) :
    (m.after calls).get? id = some (r.changed (changes id calls)) := by
  induction calls generalizing m r with
  | nil => exact h
  | cons call rest ih =>
    -- The record with the changes of this request is what the rest of the history starts with.
    have hlater := ih (get?_answer_of_some h call)
    rw [← Record.changed_append] at hlater
    refine hlater.trans (congrArg (fun all => some (r.changed all)) ?_)
    rw [changes, changes, List.filterMap_cons]
    cases call.change? id <;> rfl

/-- A record that is not there is not found until one with its identity is to be inserted. -/
theorem get?_after_of_none (h : m.get? id = none) (hnone : ¬ Inserted id calls) :
    (m.after calls).get? id = none := by
  induction calls generalizing m with
  | nil => exact h
  | cons call rest ih =>
    rw [inserted_cons, not_or] at hnone
    exact ih (get?_answer_of_none h hnone.1) hnone.2

/-- The first record inserted with its identity is there with the changes that came later. -/
theorem get?_after_of_insertedFirst (h : m.get? r.id = none) (hfirst : InsertedFirst calls r later) :
    (m.after calls).get? r.id = some (r.changed (changes r.id later)) := by
  obtain ⟨before, rfl, hnone⟩ := hfirst
  -- A change that was asked for before the insertion has failed, so it is not made later.
  have hbefore := get?_after_of_none h hnone
  have hinserted := get?_after_of_some (get?_answer_insert hbefore) later
  rwa [after, List.foldl_append, List.foldl_cons]

/-- A store that was empty finds nothing exactly if no record with the identity was to be inserted. -/
theorem get?_after_empty_eq_none_iff (calls : List Call) (id : Uuid) :
    (after {} calls).get? id = none ↔ ¬ Inserted id calls := by
  refine ⟨fun h hinserted => ?_, get?_after_of_none rfl⟩
  obtain ⟨r, later, hfirst, rfl⟩ := hinserted.first
  rw [get?_after_of_insertedFirst rfl hfirst] at h
  cases h

/-- A store that was empty finds the record that was the first to be inserted with its identity,
after the changes that were asked for since. -/
theorem get?_after_empty_eq_some_iff (calls : List Call) (id : Uuid) (found : Record) :
    (after {} calls).get? id = some found ↔
      ∃ r later, InsertedFirst calls r later ∧ r.id = id ∧ found = r.changed (changes id later) := by
  constructor
  · intro h
    have hinserted : Inserted id calls := by
      by_contra hnone
      rw [(get?_after_empty_eq_none_iff calls id).mpr hnone] at h
      cases h
    obtain ⟨r, later, hfirst, rfl⟩ := hinserted.first
    rw [get?_after_of_insertedFirst rfl hfirst] at h
    exact ⟨r, later, hfirst, rfl, (Option.some.inj h).symm⟩
  · rintro ⟨r, later, hfirst, rfl, rfl⟩
    exact get?_after_of_insertedFirst rfl hfirst

end Memory

/-- Whatever was asked of an empty store, it holds a record for an identity exactly if one was
inserted: the first of these, with the changes of its status that were asked for later. An insertion
then fails exactly if its identity is taken, a change of status exactly if its identity is missing, and
a request that fails leaves every record as it was. -/
theorem records_follow_history (calls : List Call) :
    (∀ id, ((Memory.after {} calls).answer (.get id)).1 = Except.ok none ↔ ¬ Inserted id calls) ∧
    (∀ id found, ((Memory.after {} calls).answer (.get id)).1 = Except.ok (some found) ↔
      ∃ r later, InsertedFirst calls r later ∧ r.id = id ∧ found = r.changed (changes id later)) ∧
    (∀ (record : Record) e, ((Memory.after {} calls).answer (.insert record)).1 = .error e ↔
      e = .database ("duplicate run id: " ++ record.id.text) ∧ Inserted record.id calls) ∧
    (∀ id status at_ e,
      ((Memory.after {} calls).answer (.updateStatus id status at_)).1 = .error e ↔
        e = .runNotFound id ∧ ¬ Inserted id calls) ∧
    ∀ call e, ((Memory.after {} calls).answer call).1 = .error e →
      ((Memory.after {} calls).answer call).2 = Memory.after {} calls := by
  have hthere (id : Uuid) : ((Memory.after {} calls).get? id).isSome = true ↔ Inserted id calls := by
    rw [Option.isSome_iff_ne_none, ne_eq, Memory.get?_after_empty_eq_none_iff, not_not]
  have hreply (id : Uuid) (found : Option Record) :
      ((Memory.after {} calls).answer (.get id)).1 = Except.ok found ↔
        (Memory.after {} calls).get? id = found := ⟨Except.ok.inj, congrArg Except.ok⟩
  refine ⟨fun id => ?_, fun id found => ?_, fun record e => ?_, fun id status at_ e => ?_,
    fun call e => Memory.answer_of_error⟩
  · rw [hreply, Memory.get?_after_empty_eq_none_iff]
  · rw [hreply, Memory.get?_after_empty_eq_some_iff]
  · rw [Memory.answer_insert_eq_error_iff, hthere]
  · rw [Memory.answer_updateStatus_eq_error_iff, hthere]

/-- Requests about two identities: the record of the first is changed before it is inserted, inserted
twice, and created anew after its end. -/
def twoHistories : List Call :=
  [.updateStatus ⟨1⟩ .failed ⟨0, 0⟩, .insert (nightlyRecord 1 none),
    .updateStatus ⟨1⟩ .started ⟨1, 0⟩, .insert (nightlyRecord 2 none),
    .updateStatus ⟨2⟩ .failed ⟨2, 0⟩, .insert (nightlyRecord 1 (some ⟨3, 0⟩)),
    .updateStatus ⟨1⟩ .failed ⟨4, 0⟩, .updateStatus ⟨1⟩ .created ⟨5, 0⟩]

/-- The first record has its last status, the time of its only start and that of its only end; it cannot
be inserted once more, which would change nothing. -/
theorem records_follow_history_interleaved :
    ((Memory.after {} twoHistories).answer (.get ⟨1⟩)).1 =
        Except.ok (some { nightlyRecord 1 (some ⟨1, 0⟩) with
          status := .created, finishedAt := some ⟨4, 0⟩ }) ∧
      ((Memory.after {} twoHistories).answer (.insert (nightlyRecord 1 none))).2 =
        Memory.after {} twoHistories := by
  obtain ⟨-, hfound, htaken, -, hfailed⟩ := records_follow_history twoHistories
  have hinserted : Inserted ⟨1⟩ twoHistories := ⟨nightlyRecord 1 none, by simp [twoHistories], rfl⟩
  refine ⟨(hfound ⟨1⟩ _).mpr ⟨nightlyRecord 1 none, _, ⟨[_], rfl, ?_⟩, rfl, rfl⟩, ?_⟩
  · simp [Inserted]
  · exact hfailed _ _ ((htaken (nightlyRecord 1 none) _).mpr ⟨rfl, hinserted⟩)

end BenchQueue.Store
