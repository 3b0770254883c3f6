import BenchQueue.Proofs.Run.Stage
import BenchQueue.Proofs.Scheduling.Deployment
import BenchQueue.Proofs.Store.Writes
import Mathlib.Data.Multiset.UnionInter

/-!
# The record that a run owns

A run owns the record that it has inserted until the record is finished. Whatever the store answers to
one of its requests, the run goes on with a stage that fits the records, no finished record is lost, and
a run that owns another record does not notice.
-/

namespace BenchQueue.Scheduling

open BenchQueue.Run (Stage Writes)
open BenchQueue.Store (Memory)
open BenchQueue.Store.Memory (KeepsFinished SameButFor)

/-! ## Stages and records -/

/-- There is a finished record for an identifier. -/
def FinishedFor (identifier : Run.Identifier) (m : Memory) : Prop :=
  ∃ record ∈ m.records, record.status = .finished ∧ record.identifier = identifier

/-- The identity of the record that a run owns at a stage. -/
def owned : Stage → Multiset Uuid
  | .recorded id => {id}
  | .unrecorded | .finished => 0

/-- A run owns one record at most. -/
theorem nodup_owned (stage : Stage) : (owned stage).Nodup := by
  cases stage with
  | recorded id => exact Multiset.nodup_singleton id
  | unrecorded | finished => exact Multiset.nodup_zero

/-- What the stage of a run for an identifier says about the records: all with the identity that it owns
are its own and unfinished, and it may have left a finished one. -/
def Fits (identifier : Run.Identifier) (m : Memory) : Stage → Prop
  | .unrecorded => True
  | .recorded id => (∃ record ∈ m.records, record.id = id) ∧
      ∀ record ∈ m.records, record.id = id →
        record.identifier = identifier ∧ record.status ≠ .finished
  | .finished => FinishedFor identifier m

variable {identifier : Run.Identifier} {m m' : Memory} {stage stage' : Stage}

/-- A finished record stays where finished records are kept. -/
theorem FinishedFor.keep (h : FinishedFor identifier m) (hkeeps : KeepsFinished m m') :
    FinishedFor identifier m' := by
  obtain ⟨record, hrecord, hfinished, hidentifier⟩ := h
  exact ⟨record, hkeeps record hrecord hfinished, hfinished, hidentifier⟩

/-- What another run does to its own record changes nothing for a run that owns another one. -/
theorem Fits.keep (h : Fits identifier m stage) {id : Uuid} (hkeeps : KeepsFinished m m')
    (hsame : SameButFor id m m') (hother : id ∉ owned stage) : Fits identifier m' stage := by
  cases stage with
  | unrecorded => trivial
  | finished => exact FinishedFor.keep h hkeeps
  | recorded own =>
    have hne : own ≠ id := fun heq => hother (Multiset.mem_singleton.mpr heq.symm)
    obtain ⟨⟨record, hrecord, rfl⟩, hall⟩ := h
    refine ⟨⟨record, (hsame record hne).mpr hrecord, rfl⟩, fun other hother hid => ?_⟩
    exact hall other ((hsame other (hid ▸ hne)).mp hother) hid

/-! ## One request -/

/-- What the answer to a request does: the run is at a next stage that fits, finished records are kept,
and if anything has changed, then only about one identity, which the run owned before or which is
new. -/
structure Advances (identifier : Run.Identifier) (effect : Effect) (stage : Stage) (m : Memory)
    (answer : effect.Answer) (m' : Memory) (stage' : Stage) : Prop where
  writes : Writes identifier effect stage answer stage'
  fits : Fits identifier m' stage'
  keeps : KeepsFinished m m'
  touched : (m' = m ∧ stage' = stage) ∨ ∃ id, SameButFor id m m' ∧ owned stage' ≤ {id} ∧
    (id ∈ owned stage ∨ ∀ record ∈ m.records, record.id ≠ id)

/-- An answer that changes nothing. -/
theorem advances_same {effect : Effect} {answer : effect.Answer}
    (hwrites : Writes identifier effect stage answer stage) (hfits : Fits identifier m stage) :
    Advances identifier effect stage m answer m stage :=
  ⟨hwrites, hfits, Memory.keepsFinished_refl m, Or.inl ⟨rfl, rfl⟩⟩

/-- A run that has no record advances when its record is added, or refused. -/
theorem advances_insert (m : Memory) (id : Uuid) (now : Timestamp) :
    ∃ stage', Advances identifier (.store (.insert (.created id identifier now))) .unrecorded m
      (m.answer (.insert (.created id identifier now))).1
      (m.answer (.insert (.created id identifier now))).2 stage' := by
  rcases Memory.answer_insert_cases m (.created id identifier now) with ⟨e, heq⟩ | ⟨hnew, heq⟩
  · rw [heq]
    exact ⟨.unrecorded, advances_same (.insertFailed id now e) trivial⟩
  · rw [heq]
    refine ⟨.recorded id, .insert id now, ⟨?_, ?_⟩, Memory.keepsFinished_insert m _, Or.inr ?_⟩
    · exact ⟨.created id identifier now, List.mem_append_right _ (List.mem_singleton_self _), rfl⟩
    · intro record hrecord hid
      rcases List.mem_append.mp hrecord with hold | hadded
      · exact absurd hid (hnew record hold)
      · obtain rfl := List.mem_singleton.mp hadded
        exact ⟨rfl, Run.Status.noConfusion⟩
    · exact ⟨id, Memory.sameButFor_insert m (.created id identifier now), le_rfl, Or.inr hnew⟩

/-- A run with a record advances when the status of the record changes, or the change is refused. -/
theorem advances_updateStatus {id : Uuid} (hfits : Fits identifier m (.recorded id))
    (status : Run.Status) (at_ : Timestamp) :
    ∃ stage', Advances identifier (.store (.updateStatus id status at_)) (.recorded id) m
      (m.answer (.updateStatus id status at_)).1 (m.answer (.updateStatus id status at_)).2 stage' := by
  rcases Memory.answer_updateStatus_cases m id status at_ with ⟨e, heq⟩ | ⟨-, heq⟩
  · rw [heq]
    exact ⟨.recorded id, advances_same (.updateFailed id status at_ e) hfits⟩
  · rw [heq]
    obtain ⟨⟨own, hown, hid⟩, hall⟩ := hfits
    have hkeeps := Memory.keepsFinished_updateStatus
      (fun record hrecord hid => (hall record hrecord hid).2) status at_
    have hchanged : own.withStatus status at_ ∈ m.records.map fun record =>
        if record.id = id then record.withStatus status at_ else record :=
      List.mem_map.mpr ⟨own, hown, if_pos hid⟩
    refine ⟨.after id status, .update id status at_, ?_, hkeeps,
      Or.inr ⟨id, Memory.sameButFor_updateStatus m id status at_, ?_, ?_⟩⟩
    · unfold Stage.after
      split
      · rename_i hfinished
        exact ⟨_, hchanged, hfinished, (hall own hown hid).1⟩
      · rename_i hunfinished
        refine ⟨⟨_, hchanged, hid⟩, fun record hrecord hsame => ?_⟩
        obtain ⟨old, hold, rfl⟩ := List.mem_map.mp hrecord
        by_cases holdId : old.id = id
        · rw [if_pos holdId]
          exact ⟨(hall old hold holdId).1, hunfinished⟩
        · rw [if_neg holdId] at hsame
          exact absurd hsame holdId
    · unfold Stage.after
      split
      · exact Multiset.zero_le _
      · exact le_rfl
    · exact Or.inl (Multiset.mem_singleton_self id)

/-- Whatever the store answers to a run, the run can go on from there. -/
theorem exists_advances {effect : Effect} {answer : effect.Answer}
    (hfits : Fits identifier m stage) (hreplies : Replies effect m answer m')
    (hwrites : ∃ answer stage', Writes identifier effect stage answer stage') :
    ∃ stage', Advances identifier effect stage m answer m' stage' := by
  obtain ⟨_, _, hwrites⟩ := hwrites
  cases hwrites with
  | insert id now | insertFailed id now _ =>
    cases hreplies with
    | store _ _ => exact advances_insert m id now
    | other h _ _ => exact absurd rfl (h _)
  | update id status at_ | updateFailed id status at_ _ =>
    cases hreplies with
    | store _ _ => exact advances_updateStatus hfits status at_
    | other h _ _ => exact absurd rfl (h _)
  | other h _ _ =>
    cases hreplies with
    | store call _ => exact absurd rfl (h call)
    | other _ _ _ => exact ⟨stage, advances_same (.other h answer stage) hfits⟩

/-- The other runs do not notice: their stages still fit, and they own nothing that the run owns now. -/
theorem Advances.others {effect : Effect} {answer : effect.Answer} {other : Run.Identifier}
    {elsewhere : Stage} (h : Advances identifier effect stage m answer m' stage')
    (hfits : Fits other m elsewhere) (hapart : ∀ id ∈ owned stage, id ∉ owned elsewhere) :
    Fits other m' elsewhere ∧ ∀ id ∈ owned stage', id ∉ owned elsewhere := by
  rcases h.touched with ⟨rfl, rfl⟩ | ⟨id, hsame, howned, hmine⟩
  · exact ⟨hfits, hapart⟩
  · have hnot : id ∉ owned elsewhere := by
      rcases hmine with hmine | hnew
      · exact hapart id hmine
      · intro hmem
        cases elsewhere with
        | unrecorded | finished => exact absurd hmem (Multiset.notMem_zero _)
        | recorded own =>
          obtain ⟨⟨record, hrecord, hown⟩, -⟩ := hfits
          exact hnew record hrecord (hown.trans (Multiset.mem_singleton.mp hmem).symm)
    refine ⟨hfits.keep h.keeps hsame hnot, fun id' hid' => ?_⟩
    obtain rfl := Multiset.mem_singleton.mp (Multiset.mem_of_le howned hid')
    exact hnot

end BenchQueue.Scheduling
