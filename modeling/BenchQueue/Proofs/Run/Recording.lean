import BenchQueue.Proofs.Flow
import BenchQueue.Proofs.Store.Writes
import BenchQueue.Run.Lifecycle

/-!
# What a run records

A run works with a store that accepts every write. It inserts one record, and each of its steps
either leaves this record alone or moves it to a status that its result shows.
-/

namespace BenchQueue.Run

open BenchQueue.Flow (ensures_done ensures_ask)
open BenchQueue.Store (Memory Call)

/-- A store in memory that fails no request; everything else may be answered in any way. -/
inductive Accepts : (effect : Effect) → Memory → effect.Answer → Memory → Prop
  | store {call : Call} {m m' : Memory} {answer : call.Answer}
      (h : m.answer call = (.ok answer, m')) : Accepts (.store call) m (.ok answer) m'
  | other {effect : Effect} (h : ∀ call, effect ≠ .store call) (answer : effect.Answer)
      (m : Memory) : Accepts effect m answer m

/-- The records are those before the run and one more, that of the run with a status. -/
structure Recorded (before : Memory) (id : Uuid) (identifier : Identifier) (status : Status)
    (m : Memory) : Prop where
  fresh : ∀ r ∈ before.records, r.id ≠ id
  added : ∃ record, m.records = before.records ++ [record] ∧ record.id = id ∧
    record.identifier = identifier ∧ record.status = status

variable {α σ : Type} {before m m' : Memory} {id : Uuid} {identifier : Identifier}
  {status : Status} {Q : α → Memory → Prop} {answers : Flow.Surroundings Effects σ}

/-- Surroundings whose state changes with requests to the store only. -/
def StoreOnly (answers : Flow.Surroundings Effects σ) : Prop :=
  ∀ effect state answer state', (∀ call, effect ≠ .store call) →
    answers effect state answer state' → state' = state

/-- Only the requests to the store change its records. -/
theorem accepts_storeOnly : StoreOnly Accepts := by
  intro effect m answer m' heffect hanswer
  cases hanswer with
  | store _ => exact absurd rfl (heffect _)
  | other _ _ _ => rfl

/-- A request to anything but the store leaves the state as it is. -/
theorem ensures_other (hstore : StoreOnly answers) {effect : Effect} {next : effect.Answer → Task α}
    {state : σ} {P : α → σ → Prop} (heffect : ∀ call, effect ≠ .store call)
    (h : ∀ answer, (next answer).Ensures answers state P) :
    (Flow.ask effect next : Task α).Ensures answers state P := by
  refine ensures_ask fun answer state' hanswer => ?_
  obtain rfl := hstore effect state answer state' heffect hanswer
  exact h answer

/-- A request to the store succeeds. -/
theorem ensures_store {call : Call} {next : call.Reply → Task α}
    (h : ∀ answer m', m.answer call = (.ok answer, m') → (next (.ok answer)).Ensures Accepts m' Q) :
    (Flow.ask (.store call) next : Task α).Ensures Accepts m Q := by
  refine ensures_ask fun answer m' hanswer => ?_
  cases hanswer with
  | store hreply => exact h _ _ hreply
  | other hother _ _ => exact absurd rfl (hother call)

/-! ## Writes -/

/-- The record of a new run is the last one. -/
theorem recorded_of_insert {now : Timestamp} {answer : Unit}
    (h : m.answer (.insert (.created id identifier now)) = (.ok answer, m')) :
    Recorded m id identifier .created m' := by
  rcases Memory.answer_insert_cases m (.created id identifier now) with ⟨e, heq⟩ | ⟨hnew, heq⟩
  · rw [heq] at h
    cases h
  · rw [heq] at h
    obtain rfl := (Prod.mk.inj h).2
    exact ⟨hnew, .created id identifier now, rfl, rfl, rfl, rfl⟩

/-- A change of status concerns the record of the run only. -/
theorem Recorded.update {status' : Status} {now : Timestamp} {answer : Unit}
    (hrecorded : Recorded before id identifier status m)
    (h : m.answer (.updateStatus id status' now) = (.ok answer, m')) :
    Recorded before id identifier status' m' := by
  obtain ⟨hfresh, record, hrecords, hid, hidentifier, -⟩ := hrecorded
  rcases Memory.answer_updateStatus_cases m id status' now with ⟨e, heq⟩ | ⟨-, heq⟩
  · rw [heq] at h
    cases h
  · rw [heq] at h
    obtain rfl := (Prod.mk.inj h).2
    refine ⟨hfresh, record.withStatus status' now, ?_, hid, hidentifier, rfl⟩
    have hothers : before.records.map (fun r => if r.id = id then r.withStatus status' now else r) =
        before.records := by
      refine (List.map_congr_left fun r hr => ?_).trans (List.map_id _)
      exact if_neg (hfresh r hr)
    simp [hrecords, hothers, hid]

/-! ## Steps of a run -/

namespace State

/-- Looking for the configuration leaves the surroundings as they are and keeps the name of the run.
-/
theorem resolveConfig_ensures (hstore : StoreOnly answers) (s : State) (dir : String) (state : σ) :
    (s.resolveConfig dir).Ensures answers state fun r state' =>
      state' = state ∧ ∀ s', r = .ok s' → s'.id = s.id := by
  unfold resolveConfig
  split
  · exact ensures_done ⟨rfl, fun s' h => by cases h; rfl⟩
  · split
    · exact ensures_done ⟨rfl, fun s' h => by cases h⟩
    · refine ensures_other hstore (fun _ => Effect.noConfusion) fun answer => ?_
      cases answer with
      | error fault => exact ensures_done ⟨rfl, fun s' h => by cases h⟩
      | ok _ => exact ensures_done ⟨rfl, fun s' h => by cases h; rfl⟩

/-- Making the directory and preparing the provider writes no record. -/
theorem prepare_ensures (hstore : StoreOnly answers) (s : State) (state : σ) :
    s.prepare.Ensures answers state fun r state' =>
      state' = state ∧ r.2.id = s.id ∧ (r.1 = .ok () → r.2.prepared = true) := by
  unfold prepare
  split
  · rename_i hprepared
    exact ensures_done ⟨rfl, rfl, fun _ => hprepared⟩
  · simp only [Task.ask, bind, pure, Flow.bind]
    refine ensures_other hstore (fun _ => Effect.noConfusion) fun answer => ?_
    cases answer with
    | error fault => exact ensures_done ⟨rfl, rfl, fun h => by cases h⟩
    | ok _ =>
      refine ensures_other hstore (fun _ => Effect.noConfusion) fun answer => ?_
      cases answer with
      | error e => exact ensures_done ⟨rfl, rfl, fun h => by cases h⟩
      | ok _ =>
        refine (resolveConfig_ensures hstore _ _ state).bind fun resolved _ hresolved => ?_
        obtain ⟨rfl, hid⟩ := hresolved
        cases resolved with
        | error e => exact ensures_done ⟨rfl, rfl, fun h => by cases h⟩
        | ok s' => exact ensures_done ⟨rfl, hid s' rfl, fun _ => rfl⟩

/-- Opening the files for the output writes no record. -/
theorem openOutputs_ensures (hstore : StoreOnly answers) (s : State) (state : σ) :
    s.openOutputs.Ensures answers state fun r state' =>
      state' = state ∧ r.2.id = s.id ∧ r.2.prepared = s.prepared := by
  unfold openOutputs
  split
  · simp only [Task.ask, bind, pure, Flow.bind]
    refine ensures_other hstore (fun _ => Effect.noConfusion) fun answer => ?_
    cases answer with
    | error fault => exact ensures_done ⟨rfl, rfl, rfl⟩
    | ok _ =>
      refine ensures_other hstore (fun _ => Effect.noConfusion) fun answer => ?_
      cases answer with
      | error fault => exact ensures_done ⟨rfl, rfl, rfl⟩
      | ok _ => exact ensures_done ⟨rfl, rfl, rfl⟩
  · exact ensures_done ⟨rfl, rfl, rfl⟩

/-- Logging leaves the surroundings as they are. -/
theorem log_ensures (hstore : StoreOnly answers) (s : State) (line : String) (state : σ) :
    (s.log line).Ensures answers state fun _ state' => state' = state := by
  unfold log
  split
  · exact ensures_other hstore (fun _ => Effect.noConfusion) fun _ => ensures_done rfl
  · exact ensures_done rfl

/-- Running the workflow leaves the surroundings as they are. -/
theorem runWorkflow_ensures (hstore : StoreOnly answers) (s : State) (deadline : Duration)
    (limit : Option Instant) (state : σ) :
    (s.runWorkflow deadline limit).Ensures answers state fun _ state' => state' = state := by
  refine ensures_other hstore (fun _ => Effect.noConfusion) fun answer => ?_
  cases answer with
  | expired => exact ensures_done rfl
  | panicked => exact ensures_done rfl
  | returned result => cases result <;> exact ensures_done rfl

/-- The work of the provider writes no record, however it ends. -/
theorem provisionAndRun_ensures (hstore : StoreOnly answers) (s : State) (deadline : Duration)
    (limit : Option Instant) (state : σ) :
    (s.provisionAndRun deadline limit).Ensures answers state fun r state' =>
      state' = state ∧ r.2.id = s.id := by
  refine ensures_other hstore (fun _ => Effect.noConfusion) fun answer => ?_
  cases answer with
  | expired => exact ensures_done ⟨rfl, rfl⟩
  | panicked => exact ensures_done ⟨rfl, rfl⟩
  | returned result =>
    cases result with
    | error e => exact ensures_done ⟨rfl, rfl⟩
    | ok hosts =>
      refine (runWorkflow_ensures hstore _ deadline limit state).bind fun ran _ hran => ?_
      exact ensures_done ⟨hran, rfl⟩

/-- Cleaning up leaves the surroundings as they are. -/
theorem cleanUp_ensures (hstore : StoreOnly answers) (s : State) (state : σ) :
    s.cleanUp.Ensures answers state fun _ state' => state' = state := by
  refine ensures_other hstore (fun _ => Effect.noConfusion) fun answer => ?_
  cases answer <;> exact ensures_done rfl

/-- A change of status succeeds and is recorded. -/
theorem transition_ensures {s : State} (hrecorded : Recorded before s.id identifier status m)
    (status' : Status) :
    (s.transition status').Ensures Accepts m fun r m' =>
      r.1 = .ok () ∧ r.2.id = s.id ∧ Recorded before s.id identifier status' m' := by
  refine ensures_other accepts_storeOnly (fun _ => Effect.noConfusion) fun now => ?_
  refine ensures_store fun answer m' hanswer => ?_
  exact ensures_done ⟨rfl, rfl, hrecorded.update hanswer⟩

/-- The outcome of an execution is recorded and stays what it is. -/
theorem conclude_ensures {s : State} (hrecorded : Recorded before s.id identifier status m)
    (result : Except Error Unit) :
    (s.conclude result).Ensures Accepts m fun r m' =>
      r.1 = result ∧ Recorded before s.id identifier (terminalStatus result) m' := by
  refine (transition_ensures hrecorded (terminalStatus result)).bind fun r m' hmoved => ?_
  obtain ⟨recorded, s'⟩ := r
  obtain ⟨rfl, hid, hrecorded'⟩ := hmoved
  cases result with
  | ok _ => exact ensures_done ⟨rfl, hrecorded'⟩
  | error e =>
    refine (log_ensures accepts_storeOnly s' _ m').bind fun _ _ hlogged => ?_
    obtain rfl := hlogged
    exact ensures_done ⟨rfl, hrecorded'⟩

/-- A prepared run is recorded as started and then with the status that its result shows. -/
theorem execute_ensures {s : State} (hprepared : s.prepared = true)
    (hrecorded : Recorded before s.id identifier status m) (deadline : Duration) :
    (s.execute deadline).Ensures Accepts m fun r m' =>
      Recorded before s.id identifier (terminalStatus r.1) m' := by
  unfold execute
  rw [hprepared]
  refine (transition_ensures hrecorded .started).bind fun r _ hmoved => ?_
  obtain ⟨started, s'⟩ := r
  obtain ⟨rfl, hid, hstarted⟩ := hmoved
  refine (log_ensures accepts_storeOnly s' _ _).bind fun _ _ hlogged => ?_
  obtain rfl := hlogged
  refine ensures_other accepts_storeOnly (fun _ => Effect.noConfusion) fun now => ?_
  refine (provisionAndRun_ensures accepts_storeOnly s' deadline _ _).bind fun r _ hran => ?_
  obtain ⟨result, s''⟩ := r
  obtain ⟨rfl, hid'⟩ := hran
  rw [← hid, ← hid'] at hstarted ⊢
  refine (conclude_ensures hstarted result).mono fun r _ hconcluded => ?_
  obtain ⟨rfl, hconcluded⟩ := hconcluded
  exact hconcluded

end State

/-! ## Creating a run -/

/-- A run is either created together with its record, or nothing is recorded. -/
theorem createWith_ensures (identifier : Identifier) (config : Config) (m : Memory) :
    (createWith identifier config).Ensures Accepts m fun r m' =>
      (m' = m ∧ ∃ e, r = .error e) ∨ ∃ s, r = .ok s ∧ Recorded m s.id identifier .created m' := by
  refine ensures_other accepts_storeOnly (fun _ => Effect.noConfusion) fun id => ?_
  refine ensures_other accepts_storeOnly (fun _ => Effect.noConfusion) fun answer => ?_
  cases answer with
  | error e => exact ensures_done (Or.inl ⟨rfl, _, rfl⟩)
  | ok provider =>
    refine ensures_other accepts_storeOnly (fun _ => Effect.noConfusion) fun _ => ?_
    refine ensures_other accepts_storeOnly (fun _ => Effect.noConfusion) fun _ => ?_
    refine ensures_other accepts_storeOnly (fun _ => Effect.noConfusion) fun now => ?_
    refine ensures_store fun inserted m' hinserted => ?_
    refine ensures_other accepts_storeOnly (fun _ => Effect.noConfusion) fun _ => ?_
    exact ensures_done (Or.inr ⟨_, rfl, recorded_of_insert hinserted⟩)

/-- A creation adds one record, of the run with the status it is created with, or it fails and adds
none. -/
theorem create_ensures (identifier : Identifier) (configPath : String) (m : Memory) :
    (create identifier configPath).Ensures Accepts m fun r m' =>
      (m' = m ∧ ∃ e, r = .error e) ∨ ∃ s, r = .ok s ∧ Recorded m s.id identifier .created m' := by
  unfold create
  simp only [Task.ask, bind, pure, Flow.bind]
  refine ensures_other accepts_storeOnly (fun _ => Effect.noConfusion) fun content => ?_
  split
  · exact ensures_done (Or.inl ⟨rfl, _, rfl⟩)
  · refine (createWith_ensures identifier _ m).bind fun created m' hcreated => ?_
    rcases hcreated with ⟨rfl, e, rfl⟩ | ⟨s, rfl, hrecorded⟩
    · exact ensures_done (Or.inl ⟨rfl, _, rfl⟩)
    · exact ensures_done (Or.inr ⟨_, rfl, hrecorded⟩)

end BenchQueue.Run
