import BenchQueue.Proofs.Run.Recording
import BenchQueue.Run.Executor

/-!
# How far the record of a run is

A run inserts one record for its identifier, changes the status of this record and of no other, and
touches the store no more once the record is finished. A run that succeeds has finished its record.
-/

namespace BenchQueue.Run

open BenchQueue.Flow (ensures_done ensures_ask)

/-- Whether a run has a record that is not finished, or its record is finished. -/
inductive Stage
  | unrecorded
  | recorded (id : Uuid)
  | finished

/-- The stage after a change of status. -/
def Stage.after (id : Uuid) (status : Status) : Stage :=
  if status = .finished then .finished else .recorded id

/-- The requests of a run for an identifier, with the stage of its record before and after the answer. A
write may fail, and everything but the store may answer anything. -/
inductive Writes (identifier : Identifier) : (effect : Effect) → Stage → effect.Answer → Stage → Prop
  | insert (id : Uuid) (now : Timestamp) :
      Writes identifier (.store (.insert (.created id identifier now))) .unrecorded (Except.ok ())
        (.recorded id)
  | insertFailed (id : Uuid) (now : Timestamp) (e : Store.Error) :
      Writes identifier (.store (.insert (.created id identifier now))) .unrecorded (Except.error e)
        .unrecorded
  | update (id : Uuid) (status : Status) (at_ : Timestamp) :
      Writes identifier (.store (.updateStatus id status at_)) (.recorded id) (Except.ok ())
        (.after id status)
  | updateFailed (id : Uuid) (status : Status) (at_ : Timestamp) (e : Store.Error) :
      Writes identifier (.store (.updateStatus id status at_)) (.recorded id) (Except.error e)
        (.recorded id)
  | other {effect : Effect} (h : ∀ call, effect ≠ .store call) (answer : effect.Answer)
      (stage : Stage) : Writes identifier effect stage answer stage

/-- A request to anything but the store that has an answer. -/
def Outside (effect : Effect) : Prop :=
  (∀ call, effect ≠ .store call) ∧ Nonempty effect.Answer

variable {α : Type} {identifier : Identifier} {stage : Stage} {s : State} {deadline : Duration}

/-- Only the requests to the store change the stage. -/
theorem writes_storeOnly (identifier : Identifier) : StoreOnly (Writes identifier) := by
  intro effect stage answer stage' heffect hanswer
  cases hanswer with
  | other _ _ _ => rfl
  | _ => exact absurd rfl (heffect _)

/-- What a part of a run ensures that does not ask the store, it achieves at every stage. -/
theorem achieves_outside {flow : Task α} {Q : α → Stage → Prop}
    (hflow : flow.Ensures (Writes identifier) stage Q) (hasks : flow.Asks Outside) :
    flow.Achieves (Writes identifier) stage Q := by
  refine hflow.achieves hasks fun effect stage heffect => ?_
  obtain ⟨hstore, ⟨answer⟩⟩ := heffect
  exact ⟨answer, stage, .other hstore answer stage⟩

/-- What is achieved after every answer to a request outside the store is achieved by the request,
for such a request is always answered. -/
theorem achieves_other {effect : Effect} {next : effect.Answer → Task α} {Q : α → Stage → Prop}
    (heffect : Outside effect) (h : ∀ answer, (next answer).Achieves (Writes identifier) stage Q) :
    (Flow.ask effect next : Task α).Achieves (Writes identifier) stage Q := by
  obtain ⟨hstore, ⟨answer⟩⟩ := heffect
  refine ⟨⟨answer, stage, .other hstore answer stage⟩, fun answer stage' hanswer => ?_⟩
  obtain rfl := writes_storeOnly identifier _ _ _ _ hstore hanswer
  exact h answer

/-! ## The parts of a run that leave the store alone -/

namespace State

/-- Looking for the configuration asks nothing of the store. -/
theorem resolveConfig_asks (s : State) (dir : String) : (s.resolveConfig dir).Asks Outside := by
  unfold resolveConfig
  split
  · trivial
  · split
    · trivial
    · refine ⟨⟨fun _ => Effect.noConfusion, ⟨.ok ()⟩⟩, fun answer => ?_⟩
      cases answer <;> trivial

/-- A preparation asks nothing of the store. -/
theorem prepare_asks (s : State) : s.prepare.Asks Outside := by
  unfold prepare
  split
  · trivial
  · refine ⟨⟨fun _ => Effect.noConfusion, ⟨.ok ()⟩⟩, fun answer => ?_⟩
    cases answer with
    | error fault => trivial
    | ok _ =>
      refine ⟨⟨fun _ => Effect.noConfusion, ⟨.ok ()⟩⟩, fun answer => ?_⟩
      cases answer with
      | error e => trivial
      | ok _ =>
        refine (resolveConfig_asks _ _).bind fun resolved => ?_
        cases resolved <;> trivial

/-- Opening the logs asks nothing of the store. -/
theorem openOutputs_asks (s : State) : s.openOutputs.Asks Outside := by
  unfold openOutputs
  split
  · refine ⟨⟨fun _ => Effect.noConfusion, ⟨.ok ()⟩⟩, fun answer => ?_⟩
    cases answer with
    | error fault => trivial
    | ok _ =>
      refine ⟨⟨fun _ => Effect.noConfusion, ⟨.ok ()⟩⟩, fun answer => ?_⟩
      cases answer <;> trivial
  · trivial

/-- Logging asks nothing of the store. -/
theorem log_asks (s : State) (line : String) : (s.log line).Asks Outside := by
  unfold log
  split
  · exact ⟨⟨fun _ => Effect.noConfusion, ⟨()⟩⟩, fun _ => trivial⟩
  · trivial

/-- Running the workflow asks nothing of the store. -/
theorem runWorkflow_asks (s : State) (deadline : Duration) (limit : Option Instant) :
    (s.runWorkflow deadline limit).Asks Outside := by
  refine ⟨⟨fun _ => Effect.noConfusion, ⟨.expired⟩⟩, fun answer => ?_⟩
  cases answer with
  | expired | panicked => trivial
  | returned result => cases result <;> trivial

/-- Provisioning and running asks nothing of the store. -/
theorem provisionAndRun_asks (s : State) (deadline : Duration) (limit : Option Instant) :
    (s.provisionAndRun deadline limit).Asks Outside := by
  refine ⟨⟨fun _ => Effect.noConfusion, ⟨.expired⟩⟩, fun answer => ?_⟩
  cases answer with
  | expired | panicked => trivial
  | returned result =>
    cases result with
    | error e => trivial
    | ok hosts => exact (runWorkflow_asks _ deadline limit).bind fun _ => trivial

/-- Cleaning up asks nothing of the store. -/
theorem cleanUp_asks (s : State) : s.cleanUp.Asks Outside := by
  refine ⟨⟨fun _ => Effect.noConfusion, ⟨.ok ()⟩⟩, fun answer => ?_⟩
  cases answer <;> trivial

/-! ## The writes of a run -/

/-- A change of status succeeds and moves the record of the run, or it fails and changes nothing. -/
theorem transition_achieves_stage (s : State) (status : Status) :
    (s.transition status).Achieves (Writes identifier) (.recorded s.id) fun r stage =>
      r.2.id = s.id ∧ (r.1 = .ok () ∧ stage = .after s.id status ∨
        (∃ e, r.1 = .error e) ∧ stage = .recorded s.id) := by
  refine achieves_other ⟨fun _ => Effect.noConfusion, ⟨default⟩⟩ fun now => ?_
  refine ⟨⟨Except.ok (), _, .update s.id status now⟩, fun answer stage hanswer => ?_⟩
  cases hanswer with
  | update _ _ _ => exact ⟨rfl, Or.inl ⟨rfl, rfl⟩⟩
  | updateFailed _ _ _ e => exact ⟨rfl, Or.inr ⟨⟨_, rfl⟩, rfl⟩⟩
  | other h _ _ => exact absurd rfl (h _)

/-- A success is concluded by finishing the record. -/
theorem conclude_achieves_stage (s : State) (result : Except Error Unit) :
    (s.conclude result).Achieves (Writes identifier) (.recorded s.id) fun r stage =>
      r.1 = .ok () → stage = .finished := by
  refine (transition_achieves_stage s _).bind fun r stage hmoved => ?_
  obtain ⟨recorded, s'⟩ := r
  obtain ⟨-, hmoved⟩ := hmoved
  cases result with
  | ok _ =>
    rcases hmoved with ⟨rfl, rfl⟩ | ⟨⟨e, rfl⟩, -⟩
    · exact fun _ => rfl
    · exact fun hok => by cases hok
  | error cause =>
    rcases hmoved with ⟨rfl, -⟩ | ⟨⟨e, rfl⟩, -⟩
    · refine Flow.Achieves.bind (P := fun _ _ => True) ?_ fun _ _ _ => ?_
      · exact achieves_outside (fun _ _ _ => trivial) (s'.log_asks _)
      · exact fun hok => by cases hok
    · exact fun hok => by cases hok

/-- An execution that succeeds has finished the record. -/
theorem execute_achieves_stage (s : State) (deadline : Duration) :
    (s.execute deadline).Achieves (Writes identifier) (.recorded s.id) fun r stage =>
      r.1 = .ok () → stage = .finished := by
  unfold execute
  split
  · exact fun hok => by cases hok
  · refine (transition_achieves_stage s .started).bind fun r stage hmoved => ?_
    obtain ⟨started, s'⟩ := r
    obtain ⟨hid, ⟨rfl, rfl⟩ | ⟨⟨e, rfl⟩, -⟩⟩ := hmoved
    · have hlog := achieves_outside (log_ensures (writes_storeOnly identifier) s' s'.startLine
        (.after s.id .started)) (log_asks _ _)
      refine hlog.bind fun _ _ hlogged => ?_
      obtain rfl := hlogged
      refine achieves_other ⟨fun _ => Effect.noConfusion, ⟨default⟩⟩ fun now => ?_
      have hworked := achieves_outside (provisionAndRun_ensures (writes_storeOnly identifier) s' deadline
        (now.after? deadline) (.after s.id .started)) (provisionAndRun_asks _ _ _)
      refine hworked.bind fun r _ hran => ?_
      obtain ⟨result, s''⟩ := r
      obtain ⟨rfl, hid'⟩ := hran
      have hsame : Stage.after s.id .started = .recorded s''.id := by
        rw [hid', hid]
        rfl
      rw [hsame]
      exact conclude_achieves_stage s'' result
    · exact fun hok => by cases hok

end State

/-! ## The run of an attempt -/

/-- A run with a record is driven to an end, and to a record that is finished if the result is a
success. -/
theorem drive_achieves_stage (s : State) (deadline : Duration) :
    (drive deadline s).Achieves (Writes identifier) (.recorded s.id) fun result stage =>
      result = .ok () → stage = .finished := by
  have hstore := writes_storeOnly identifier
  refine (achieves_outside (s.prepare_ensures hstore _) s.prepare_asks).bind fun r _ hprepared => ?_
  obtain ⟨prepared, ready⟩ := r
  obtain ⟨rfl, hid, -⟩ := hprepared
  cases prepared with
  | error e => exact fun hok => by cases hok
  | ok _ =>
    refine (achieves_outside (ready.openOutputs_ensures hstore _) ready.openOutputs_asks).bind
      fun r _ hopens => ?_
    obtain ⟨opens, opened⟩ := r
    obtain ⟨rfl, hid', -⟩ := hopens
    cases opens with
    | error e => exact fun hok => by cases hok
    | ok _ =>
      rw [← hid, ← hid']
      refine (State.execute_achieves_stage opened deadline).bind fun r stage hexecuted => ?_
      obtain ⟨executed, ended⟩ := r
      refine (achieves_outside (ended.cleanUp_ensures hstore stage) ended.cleanUp_asks).bind
        fun cleaned _ hcleaned => ?_
      obtain rfl := hcleaned
      intro hok
      cases executed with
      | ok _ => exact hexecuted rfl
      | error e => cases hok

/-- A run that is created has inserted its record. -/
theorem createWith_achieves_stage (identifier : Identifier) (config : Config) :
    (createWith identifier config).Achieves (Writes identifier) .unrecorded fun r stage =>
      ∀ s, r = .ok s → stage = .recorded s.id := by
  refine achieves_other ⟨fun _ => Effect.noConfusion, ⟨.nil⟩⟩ fun id => ?_
  refine achieves_other ⟨fun _ => Effect.noConfusion, ⟨.ok 0⟩⟩ fun answer => ?_
  cases answer with
  | error e => exact fun _ hok => by cases hok
  | ok provider =>
    refine achieves_other ⟨fun _ => Effect.noConfusion, ⟨()⟩⟩ fun _ => ?_
    refine achieves_other ⟨fun _ => Effect.noConfusion, ⟨()⟩⟩ fun _ => ?_
    refine achieves_other ⟨fun _ => Effect.noConfusion, ⟨default⟩⟩ fun now => ?_
    refine ⟨⟨Except.ok (), _, .insert id now⟩, fun answer stage hanswer => ?_⟩
    cases hanswer with
    | insert _ _ =>
      refine achieves_other ⟨fun _ => Effect.noConfusion, ⟨()⟩⟩ fun _ => ?_
      exact fun _ hok => by cases hok; rfl
    | insertFailed _ _ e => exact fun _ hok => by cases hok
    | other h _ _ => exact absurd rfl (h _)

/-- A creation comes to an end, and if it is a success the run has a record. -/
theorem create_achieves_stage (identifier : Identifier) (configPath : String) :
    (create identifier configPath).Achieves (Writes identifier) .unrecorded fun r stage =>
      ∀ s, r = .ok s → stage = .recorded s.id := by
  unfold create
  simp only [Task.ask, bind, pure, Flow.bind]
  refine achieves_other ⟨fun _ => Effect.noConfusion, ⟨.ok ""⟩⟩ fun content => ?_
  split
  · exact fun _ hok => by cases hok
  · refine (createWith_achieves_stage identifier _).bind fun created stage hcreated => ?_
    cases created with
    | error e => exact fun _ hok => by cases hok
    | ok s => exact fun _ hok => by cases hok; exact hcreated s rfl

/-- The run of an attempt writes its own record only, and if it succeeds, the record is finished. -/
theorem executeFile_achieves_stage (deadline : Duration) (identifier : Identifier)
    (configPath : String) :
    (executeFile deadline identifier configPath).Achieves (Writes identifier) .unrecorded
      fun result stage => result = .ok () → stage = .finished := by
  refine (create_achieves_stage identifier configPath).bind fun created stage hcreated => ?_
  cases created with
  | error e => exact fun hok => by cases hok
  | ok s =>
    obtain rfl := hcreated s rfl
    exact drive_achieves_stage s deadline

end BenchQueue.Run
