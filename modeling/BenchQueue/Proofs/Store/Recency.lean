import BenchQueue.Proofs.Store.Lookup
import BenchQueue.Proofs.Store.Writes
import Mathlib.Data.Int.ConditionallyCompleteOrder
import Mathlib.Data.List.Nodup
import Mathlib.Data.Prod.Lex
import Mathlib.Order.Compare
import Mathlib.Order.ConditionallyCompleteLattice.Basic
import Mathlib.Order.WithBot

/-!
# The most recent record

Records are ordered by their start, their creation and their identity, where a record that was never
started comes first. No two records of a store in memory have the same identity, so of the records that
satisfy a condition one is the most recent, in whatever order they are looked through. The lookups
answer this record.
-/

namespace BenchQueue

/-- A point in time as its seconds and the nanoseconds beyond them. -/
def Timestamp.key (t : Timestamp) : ℤ ×ₗ ℕ := toLex (t.seconds, t.nanos)

/-- A point in time is before another if its key is less. -/
theorem Timestamp.compare_eq_lt {a b : Timestamp} : a.compare b = .lt ↔ a.key < b.key := by
  simp [Timestamp.compare, Timestamp.key, Prod.Lex.toLex_lt_toLex, Ordering.then_eq_lt,
    compare_lt_iff_lt]

/-- Points in time are the same if their keys are. -/
theorem Timestamp.compare_eq_eq {a b : Timestamp} : a.compare b = .eq ↔ a.key = b.key := by
  simp [Timestamp.compare, Timestamp.key, Ordering.then_eq_eq]

namespace Store

open BenchQueue.Run (Record)

/-- The key of a point in time that may be missing; a missing one is the least. -/
def optionalKey : Option Timestamp → WithBot (ℤ ×ₗ ℕ)
  | none => ⊥
  | some t => t.key

/-- The start, the creation and the identity of a record, compared in this order. -/
def recencyKey (r : Record) : WithBot (ℤ ×ₗ ℕ) ×ₗ (ℤ ×ₗ ℕ) ×ₗ ℕ :=
  toLex (optionalKey r.startedAt, toLex (r.createdAt.key, r.id.bits.toNat))

/-- A record that satisfies a condition and is as recent as every other one that does. -/
structure IsMostRecent (records : List Record) (P : Record → Prop) (r : Record) : Prop where
  mem : r ∈ records
  satisfies : P r
  greatest : ∀ other ∈ records, P other → recencyKey other ≤ recencyKey r

variable {m m' : Memory} {records : List Record} {condition : Record → Bool} {P : Record → Prop}
  {a b r : Record} {call : Call}

/-! ## The order -/

/-- The order of points in time that may be missing is that of their keys. -/
theorem compareOptional_eq_lt {a b : Option Timestamp} :
    Memory.compareOptional a b = .lt ↔ optionalKey a < optionalKey b := by
  cases a <;> cases b <;>
    simp [Memory.compareOptional, optionalKey, Timestamp.compare_eq_lt]

/-- Points in time that may be missing compare as equal if their keys are. -/
theorem compareOptional_eq_eq {a b : Option Timestamp} :
    Memory.compareOptional a b = .eq ↔ optionalKey a = optionalKey b := by
  cases a <;> cases b <;>
    simp [Memory.compareOptional, optionalKey, Timestamp.compare_eq_eq]

/-- The store compares records by their keys. -/
theorem recency_eq_lt : Memory.recency a b = .lt ↔ recencyKey a < recencyKey b := by
  simp [Memory.recency, recencyKey, Prod.Lex.toLex_lt_toLex, Ordering.then_eq_lt,
    compareOptional_eq_lt, compareOptional_eq_eq, Timestamp.compare_eq_lt,
    Timestamp.compare_eq_eq, Uuid.compare, compare_lt_iff_lt]

/-- The key contains the identity. -/
theorem id_eq_of_recencyKey_eq (h : recencyKey a = recencyKey b) : a.id = b.id := by
  have hbits : a.id.bits.toNat = b.id.bits.toNat :=
    (Prod.mk.inj (toLex_inj.mp (Prod.mk.inj (toLex_inj.mp h)).2)).2
  exact congrArg Uuid.mk (BitVec.eq_of_toNat_eq hbits)

/-! ## The choice -/

/-- The later of two records is at least as recent as both. -/
theorem le_recencyKey_later (a b : Record) :
    recencyKey a ≤ recencyKey (Memory.later a b) ∧
      recencyKey b ≤ recencyKey (Memory.later a b) := by
  unfold Memory.later
  split
  case isTrue hlt => exact ⟨(recency_eq_lt.mp hlt).le, le_rfl⟩
  case isFalse hnot => exact ⟨le_rfl, not_lt.mp fun hlt => hnot (recency_eq_lt.mpr hlt)⟩

/-- Going through records, the store keeps one that is as recent as all of them. -/
theorem le_recencyKey_foldl_later (first : Record) (rest : List Record) :
    ∀ r ∈ first :: rest, recencyKey r ≤ recencyKey (rest.foldl Memory.later first) := by
  induction rest generalizing first with
  | nil =>
    intro r hr
    rw [List.mem_singleton.mp hr]
    exact le_rfl
  | cons next rest ih =>
    intro r hr
    have hkept := ih (Memory.later first next) _ List.mem_cons_self
    have hboth := le_recencyKey_later first next
    rcases List.mem_cons.mp hr with rfl | hr
    · exact hboth.1.trans hkept
    · rcases List.mem_cons.mp hr with rfl | hr
      · exact hboth.2.trans hkept
      · exact ih _ r (List.mem_cons_of_mem _ hr)

/-- No record is chosen exactly if none satisfies the condition. -/
theorem mostRecent?_eq_none_iff :
    m.mostRecent? condition = none ↔ ∀ r ∈ m.records, ¬ condition r = true := by
  rw [← List.filter_eq_nil_iff]
  unfold Memory.mostRecent?
  split
  case h_1 hnil => simp [hnil]
  case h_2 hcons => simp [hcons]

/-- What the store chooses is the most recent record. -/
theorem isMostRecent_of_mostRecent? (h : m.mostRecent? condition = some r) :
    IsMostRecent m.records (condition · = true) r := by
  obtain ⟨hmem, hsatisfies⟩ := Memory.mem_of_mostRecent? h
  refine ⟨hmem, hsatisfies, fun other hother hcondition => ?_⟩
  have hkept : other ∈ m.records.filter condition := List.mem_filter.mpr ⟨hother, hcondition⟩
  unfold Memory.mostRecent? at h
  split at h
  case h_1 => cases h
  case h_2 first rest hfilter =>
    rw [← Option.some.inj h]
    exact le_recencyKey_foldl_later first rest other (hfilter ▸ hkept)

/-- Of records with different identities at most one is the most recent. -/
theorem IsMostRecent.unique (hids : (records.map (·.id)).Nodup) (ha : IsMostRecent records P a)
    (hb : IsMostRecent records P b) : a = b := by
  have hkey : recencyKey a = recencyKey b :=
    le_antisymm (hb.greatest a ha.mem ha.satisfies) (ha.greatest b hb.mem hb.satisfies)
  exact List.inj_on_of_nodup_map hids ha.mem hb.mem (id_eq_of_recencyKey_eq hkey)

/-- The store chooses a record if and only if it is the most recent one. -/
theorem mostRecent?_eq_some_iff (hids : (m.records.map (·.id)).Nodup) :
    m.mostRecent? condition = some r ↔ IsMostRecent m.records (condition · = true) r := by
  refine ⟨isMostRecent_of_mostRecent?, fun h => ?_⟩
  cases hfound : m.mostRecent? condition with
  | none => exact absurd h.satisfies (mostRecent?_eq_none_iff.mp hfound r h.mem)
  | some found => rw [(isMostRecent_of_mostRecent? hfound).unique hids h]

/-! ## Identities -/

/-- The records after requests, one after the other. -/
def Memory.after (m : Memory) (calls : List Call) : Memory :=
  calls.foldl (fun m call => (m.answer call).2) m

/-- No request gives two records the same identity. -/
theorem nodup_ids_answer (hids : (m.records.map (·.id)).Nodup) (call : Call) :
    ((m.answer call).2.records.map (·.id)).Nodup := by
  cases call with
  | insert record =>
    rcases m.answer_insert_cases record with ⟨e, heq⟩ | ⟨hnew, heq⟩
    · rwa [heq]
    · rw [heq, List.map_append, List.map_singleton, ← List.concat_eq_append, List.nodup_concat]
      refine ⟨fun hmem => ?_, hids⟩
      obtain ⟨other, hother, hid⟩ := List.mem_map.mp hmem
      exact hnew other hother hid
  | updateStatus id status at_ =>
    rcases m.answer_updateStatus_cases id status at_ with ⟨e, heq⟩ | ⟨-, heq⟩
    · rwa [heq]
    · have hsame : (fun r : Record => r.id) ∘
          (fun r => if r.id = id then r.withStatus status at_ else r) = (·.id) := by
        funext r
        by_cases hid : r.id = id <;> simp [hid, Record.withStatus]
      rwa [heq, List.map_map, hsame]
  | get _ | exists_ _ _ | findFinished _ | previousFinished _ _ _ | latestFinished _ => exact hids

/-- If all identities are different, they are so after any requests. -/
theorem nodup_ids_after (hids : (m.records.map (·.id)).Nodup) (calls : List Call) :
    ((m.after calls).records.map (·.id)).Nodup := by
  induction calls generalizing m with
  | nil => exact hids
  | cons call rest ih => exact ih (nodup_ids_answer hids call)

/-! ## The lookups -/

/-- A reply is the most recent record that satisfies a condition, or nothing if no record does. -/
def Chooses (records : List Record) (P : Record → Prop) (reply : Except Error (Option Record)) :
    Prop :=
  ∃ found, reply = .ok found ∧ (found = none ↔ ∀ r ∈ records, ¬ P r) ∧
    ∀ r, found = some r ↔ IsMostRecent records P r

/-- Choosing by a condition is choosing by what it says. -/
theorem chooses_mostRecent? (hids : (m.records.map (·.id)).Nodup)
    (hcondition : ∀ r, condition r = true ↔ P r) :
    Chooses m.records P (.ok (m.mostRecent? condition)) := by
  obtain rfl : P = (condition · = true) := funext fun r => propext (hcondition r).symm
  exact ⟨_, rfl, mostRecent?_eq_none_iff, fun r => mostRecent?_eq_some_iff hids⟩

/-- A finished record exists if and only if the lookup of finished records finds one. -/
theorem any_finished_iff (m : Memory) (filter : Run.Filter) :
    (m.records.any fun r => r.status = .finished && filter.accepts r) = true ↔
      ∃ r, m.mostRecent? (Memory.finishedAnd filter.accepts) = some r := by
  rw [← Option.ne_none_iff_exists', ne_eq, mostRecent?_eq_none_iff, List.any_eq_true]
  simp [Memory.finishedAnd]

/-- In whatever order the store goes through its records, a lookup of finished records answers the
most recent of those that satisfy its condition, which is one record, and nothing if there is none.
A finished record that a filter accepts exists if and only if the lookup with this filter finds one. -/
theorem lookups_choose_most_recent (calls : List Call)
    (h : records.Perm (Memory.after {} calls).records) :
    (∀ filter : Run.Filter,
      Chooses records (fun r => r.status = .finished ∧ filter.accepts r = true)
        ((Memory.mk records).answer (.findFinished filter)).1) ∧
    (∀ source benchmarkType excluding,
      Chooses records (fun r => r.status = .finished ∧ r.identifier.source = source ∧
          r.identifier.benchmarkType = benchmarkType ∧ r.identifier.gitRef ≠ excluding)
        ((Memory.mk records).answer (.previousFinished source benchmarkType excluding)).1) ∧
    (∀ source, Chooses records (fun r => r.status = .finished ∧ r.identifier.source = source)
        ((Memory.mk records).answer (.latestFinished source)).1) ∧
    ∀ filter : Run.Filter, ∃ finished found,
      ((Memory.mk records).answer (.exists_ filter .finished)).1 = .ok finished ∧
        ((Memory.mk records).answer (.findFinished filter)).1 = .ok found ∧
        (finished = true ↔ ∃ r, found = some r) ∧
        ∀ r, found = some r → r.status = .finished ∧ filter.accepts r = true := by
  have hempty : ((({} : Memory).records).map (·.id)).Nodup := List.nodup_nil
  have hids : (records.map (·.id)).Nodup := (h.map _).nodup_iff.mpr (nodup_ids_after hempty calls)
  refine ⟨fun filter => ?_, fun source benchmarkType excluding => ?_, fun source => ?_,
    fun filter => ⟨_, _, rfl, rfl, any_finished_iff _ filter, fun r hfound => ?_⟩⟩
  · exact chooses_mostRecent? hids fun r => by simp [Memory.finishedAnd]
  · exact chooses_mostRecent? hids fun r => by
      simp [Memory.finishedAnd, Memory.isPrevious, and_assoc]
  · exact chooses_mostRecent? hids fun r => by simp [Memory.finishedAnd]
  · exact (Finds.memory (congrArg Except.ok hfound)).finished.2

/-- A finished run of the regular submissions. -/
def nightlyRecord (id : Nat) (startedAt : Option Timestamp) : Record where
  id := ⟨id⟩
  identifier := { source := "cron", gitRef := "4be2a1f", benchmarkType := "micro" }
  status := .finished
  createdAt := ⟨0, 0⟩
  startedAt
  finishedAt := none

/-- Of two runs of which one was never started, the other one is found although the store comes to it
first. -/
theorem lookups_choose_most_recent_started :
    [nightlyRecord 1 (some ⟨0, 0⟩), nightlyRecord 2 none].Perm
        (Memory.after {} [.insert (nightlyRecord 2 none),
          .insert (nightlyRecord 1 (some ⟨0, 0⟩))]).records ∧
      ((Memory.mk [nightlyRecord 1 (some ⟨0, 0⟩), nightlyRecord 2 none]).answer
        (.previousFinished "cron" "micro" "90c7d3e")).1 =
          .ok (some (nightlyRecord 1 (some ⟨0, 0⟩))) := by
  have hperm : [nightlyRecord 1 (some ⟨0, 0⟩), nightlyRecord 2 none].Perm
      (Memory.after {} [.insert (nightlyRecord 2 none),
        .insert (nightlyRecord 1 (some ⟨0, 0⟩))]).records := .swap _ _ []
  refine ⟨hperm, ?_⟩
  obtain ⟨-, hprevious, -⟩ := lookups_choose_most_recent _ hperm
  obtain ⟨found, hfound, -, hchosen⟩ := hprevious "cron" "micro" "90c7d3e"
  rw [hfound]
  refine congrArg Except.ok ((hchosen _).mpr ⟨by simp, by decide, fun other hother _ => ?_⟩)
  rcases List.mem_cons.mp hother with rfl | hother
  · exact le_rfl
  · obtain rfl := List.mem_singleton.mp hother
    exact (recency_eq_lt.mp (by decide)).le

end Store

end BenchQueue
