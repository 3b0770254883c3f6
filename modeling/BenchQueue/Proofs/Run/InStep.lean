import BenchQueue.Proofs.Run.Ends
import BenchQueue.Proofs.Run.Stage
import BenchQueue.Run.Calls

/-!
# A run and its record

A run knows its status and its times, and its record says them again. The run follows a change of the
record once the store has accepted it and stays as it is when the store refuses, and nothing else that a
run does changes either of the two. So after every call they agree.
-/

namespace BenchQueue.Run

open BenchQueue.Flow (ends_bind_iff)
open BenchQueue.Store (Memory)

/-- A store in memory that may refuse any request, which then changes nothing; everything else may be
answered in any way. -/
inductive MayRefuse : (effect : Effect) → Memory → effect.Answer → Memory → Prop
  | answered (call : Store.Call) (m : Memory) :
      MayRefuse (.store call) m (m.answer call).1 (m.answer call).2
  | refused (call : Store.Call) (e : Store.Error) (m : Memory) :
      MayRefuse (.store call) m (Except.error e) m
  | other {effect : Effect} (h : ∀ call, effect ≠ .store call) (answer : effect.Answer)
      (m : Memory) : MayRefuse effect m answer m

/-- What a run says about itself, as a record. -/
def State.record (s : State) : Record :=
  { id := s.id, identifier := s.identifier, status := s.status, createdAt := s.createdAt
    startedAt := s.startedAt, finishedAt := s.finishedAt }

/-- The run with an identity and an identifier, whose record in the store says the same as the run. -/
structure InStep (id : Uuid) (identifier : Identifier) (s : State) (m : Memory) : Prop where
  same_id : s.id = id
  same_identifier : s.identifier = identifier
  found : m.get? id = some s.record

variable {α : Type} {id : Uuid} {identifier : Identifier} {s s' : State} {m m' : Memory}
  {deadline : Duration} {calls : List OwnerCall}

/-- Only requests to the store change the records. -/
theorem mayRefuse_storeOnly : StoreOnly MayRefuse := by
  intro effect m answer m' heffect hanswer
  cases hanswer with
  | answered _ _ => exact absurd rfl (heffect _)
  | refused _ _ _ => exact absurd rfl (heffect _)
  | other _ _ _ => rfl

/-- A change of the status of a run changes its record in the same way. -/
@[simp] theorem record_withStatus (s : State) (status : Status) (at_ : Timestamp) :
    (s.withStatus status at_).record = s.record.withStatus status at_ := rfl

/-- A run that says the same as before is in step with the same records. -/
theorem InStep.of_record_eq (h : InStep id identifier s m) (hsame : s'.record = s.record) :
    InStep id identifier s' m where
  same_id := (congrArg Record.id hsame).trans h.same_id
  same_identifier := (congrArg Record.identifier hsame).trans h.same_identifier
  found := by rw [hsame, h.found]

/-- A request of another kind than one to the store may be answered in any way, and the records
stay. -/
theorem achieves_other_refusing {effect : Effect} {next : effect.Answer → Task α}
    {Q : α → Memory → Prop} (heffect : Outside effect)
    (h : ∀ answer, (next answer).Achieves MayRefuse m Q) :
    (Flow.ask effect next : Task α).Achieves MayRefuse m Q := by
  obtain ⟨hstore, ⟨answer⟩⟩ := heffect
  refine ⟨⟨answer, m, .other hstore answer m⟩, ?_⟩
  intro answer m' hanswer
  obtain rfl := mayRefuse_storeOnly effect m answer m' hstore hanswer
  exact h answer

/-- A part of a run that does not ask the store leaves the records alone and has one of its results. -/
theorem achieves_apart {flow : Task α} {Q : α → Prop} (hasks : flow.Asks Outside)
    (hyields : flow.Yields Q) (m : Memory) :
    flow.Achieves MayRefuse m fun a m' => Q a ∧ m' = m := by
  induction flow with
  | done a => exact ⟨hyields, rfl⟩
  | ask effect next ih =>
    exact achieves_other_refusing hasks.1 fun answer => ih answer (hasks.2 answer) (hyields answer)

/-! ## The parts of a run that say nothing new -/

namespace State

/-- Resolving the configuration changes nothing that the record says. -/
theorem resolveConfig_yields (s : State) (dir : String) :
    (s.resolveConfig dir).Yields fun r => ∀ s', r = .ok s' → s'.record = s.record := by
  unfold resolveConfig
  split
  · intro s' hok
    cases hok
    rfl
  · split
    · exact fun _ hok => by cases hok
    · intro answer
      cases answer with
      | error fault => exact fun _ hok => by cases hok
      | ok _ =>
        intro s' hok
        cases hok
        rfl

/-- A preparation changes nothing that the record says. -/
theorem prepare_yields (s : State) : s.prepare.Yields fun r => r.2.record = s.record := by
  unfold prepare
  split
  · rfl
  · intro answer
    cases answer with
    | error fault => rfl
    | ok _ =>
      intro answer
      cases answer with
      | error e => rfl
      | ok _ =>
        refine (resolveConfig_yields _ _).bind fun resolved hresolved => ?_
        cases resolved with
        | error e => rfl
        | ok s' => exact hresolved s' rfl

/-- Opening the logs changes nothing that the record says. -/
theorem openOutputs_yields (s : State) : s.openOutputs.Yields fun r => r.2.record = s.record := by
  unfold openOutputs
  split
  · intro answer
    cases answer with
    | error fault => rfl
    | ok _ =>
      intro answer
      cases answer <;> rfl
  · rfl

/-- The work of an execution changes nothing that the record says. -/
theorem provisionAndRun_yields (s : State) (deadline : Duration) (limit : Option Instant) :
    (s.provisionAndRun deadline limit).Yields fun r => r.2.record = s.record := by
  intro answer
  cases answer with
  | expired | panicked => rfl
  | returned result =>
    cases result with
    | error e => rfl
    | ok hosts =>
      have hany : ((s.withVariables hosts).runWorkflow deadline limit).Yields fun _ => True := by
        intro answer
        cases answer with
        | expired | panicked => trivial
        | returned result => cases result <;> trivial
      exact hany.bind fun _ _ => rfl

/-- Writing into a log always ends. -/
theorem log_yields (s : State) (line : String) : (s.log line).Yields fun _ => True := by
  unfold log
  split
  · exact fun _ => trivial
  · trivial

/-- A clean up always ends. -/
theorem cleanUp_yields (s : State) : s.cleanUp.Yields fun _ => True := by
  intro answer
  cases answer <;> trivial

/-! ## Calls -/

/-- The run follows its record: both move, or the store refuses and both stay. -/
theorem transition_in_step (h : InStep id identifier s m) (status : Status) :
    (s.transition status).Achieves MayRefuse m fun r m' => InStep id identifier r.2 m' := by
  obtain ⟨rfl, rfl, hfound⟩ := h
  refine achieves_other_refusing ⟨fun _ => Effect.noConfusion, ⟨default⟩⟩ fun now => ?_
  refine ⟨⟨_, _, .answered (.updateStatus s.id status now) m⟩, ?_⟩
  intro answer m' hanswer
  cases hanswer with
  | refused _ e _ => exact ⟨rfl, rfl, hfound⟩
  | other hother _ _ => exact absurd rfl (hother _)
  | answered _ _ =>
    rcases Memory.answer_updateStatus_cases m s.id status now with ⟨e, heq⟩ | ⟨-, heq⟩
    · rw [heq]
      exact ⟨rfl, rfl, hfound⟩
    · rw [heq]
      exact ⟨rfl, rfl, Memory.get?_map_withStatus hfound status now⟩

/-- The end of an execution is recorded, and the run follows unless the store refuses. -/
theorem conclude_in_step (h : InStep id identifier s m) (result : Except Error Unit) :
    (s.conclude result).Achieves MayRefuse m fun r m' => InStep id identifier r.2 m' := by
  refine (transition_in_step h _).bind fun r m' hmoved => ?_
  obtain ⟨recorded, s'⟩ := r
  cases result with
  | ok _ => exact hmoved
  | error e =>
    cases recorded with
    | error cause => exact hmoved
    | ok _ =>
      refine (achieves_apart (log_asks s' _) (log_yields s' _) m').bind ?_
      rintro _ _ ⟨-, rfl⟩
      exact hmoved

/-- An execution keeps the run and its record in step, also if the store refuses a request. -/
theorem execute_in_step (h : InStep id identifier s m) (deadline : Duration) :
    (s.execute deadline).Achieves MayRefuse m fun r m' => InStep id identifier r.2 m' := by
  unfold execute
  split
  · exact h
  · refine (transition_in_step h .started).bind fun r m' hmoved => ?_
    obtain ⟨started, s'⟩ := r
    cases started with
    | error cause => exact hmoved
    | ok _ =>
      refine (achieves_apart (log_asks s' _) (log_yields s' _) m').bind ?_
      rintro _ _ ⟨-, rfl⟩
      refine achieves_other_refusing ⟨fun _ => Effect.noConfusion, ⟨default⟩⟩ fun now => ?_
      refine (achieves_apart (provisionAndRun_asks s' deadline _)
        (provisionAndRun_yields s' deadline _) _).bind ?_
      rintro ⟨result, s''⟩ _ ⟨hsame, rfl⟩
      exact conclude_in_step (hmoved.of_record_eq hsame) result

/-- Every call leaves the run in step with its record. -/
theorem call_in_step (h : InStep id identifier s m) (c : OwnerCall) :
    (s.call c).Achieves MayRefuse m fun r m' => InStep id identifier r.2 m' := by
  cases c with
  | prepare =>
    refine (achieves_apart s.prepare_asks s.prepare_yields m).mono ?_
    rintro r _ ⟨hsame, rfl⟩
    exact h.of_record_eq hsame
  | openOutputs =>
    refine (achieves_apart s.openOutputs_asks s.openOutputs_yields m).mono ?_
    rintro r _ ⟨hsame, rfl⟩
    exact h.of_record_eq hsame
  | execute deadline => exact execute_in_step h deadline
  | cleanUp =>
    refine (achieves_apart s.cleanUp_asks s.cleanUp_yields m).bind ?_
    rintro _ _ ⟨-, rfl⟩
    exact h
  | conclude => exact h

/-- Any calls keep the run and its record in step. -/
theorem callAll_in_step (h : InStep id identifier s m) (calls : List OwnerCall) :
    (s.callAll calls).Achieves MayRefuse m fun s' m' => InStep id identifier s' m' := by
  induction calls generalizing s m with
  | nil => exact h
  | cons c rest ih =>
    refine (call_in_step h c).bind fun r m' hstep => ?_
    exact ih hstep

end State

/-- A run that is created is in step with its record. -/
theorem createWith_in_step (identifier : Identifier) (config : Config) (m : Memory) :
    (createWith identifier config).Achieves MayRefuse m fun r m' =>
      ∀ s, r = .ok s → InStep s.id identifier s m' := by
  refine achieves_other_refusing ⟨fun _ => Effect.noConfusion, ⟨.nil⟩⟩ fun id => ?_
  refine achieves_other_refusing ⟨fun _ => Effect.noConfusion, ⟨.ok 0⟩⟩ fun answer => ?_
  cases answer with
  | error e => exact fun _ hok => by cases hok
  | ok provider =>
    refine achieves_other_refusing ⟨fun _ => Effect.noConfusion, ⟨()⟩⟩ fun _ => ?_
    refine achieves_other_refusing ⟨fun _ => Effect.noConfusion, ⟨()⟩⟩ fun _ => ?_
    refine achieves_other_refusing ⟨fun _ => Effect.noConfusion, ⟨default⟩⟩ fun now => ?_
    refine ⟨⟨_, _, .answered (.insert (.created id identifier now)) m⟩, ?_⟩
    intro answer m' hanswer
    cases hanswer with
    | refused _ e _ => exact fun _ hok => by cases hok
    | other hother _ _ => exact absurd rfl (hother _)
    | answered _ _ =>
      rcases Memory.answer_insert_cases m (.created id identifier now) with ⟨e, heq⟩ | ⟨hnew, heq⟩
      · rw [heq]
        exact fun _ hok => by cases hok
      · rw [heq]
        refine achieves_other_refusing ⟨fun _ => Effect.noConfusion, ⟨()⟩⟩ fun _ => ?_
        intro s hok
        cases hok
        exact ⟨rfl, rfl, Memory.get?_concat hnew⟩

/-- Whatever the provider does and whichever requests the store refuses, a run is created or not, and a
run that was created answers every call. After each of them the record with its identity says the same as
the run about its status and its times, and is about the identifier that the run was created for. -/
theorem record_in_step (identifier : Identifier) (config : Config) (calls : List OwnerCall)
    (m : Memory) :
    (createWith identifier config).Achieves MayRefuse m fun created m' =>
      ∀ s, created = .ok s →
        (s.callAll calls).Achieves MayRefuse m' fun s' m'' =>
          s'.id = s.id ∧ ∃ record, m''.get? s.id = some record ∧ record.identifier = identifier ∧
            record.status = s'.status ∧ record.createdAt = s'.createdAt ∧
            record.startedAt = s'.startedAt ∧ record.finishedAt = s'.finishedAt := by
  refine (createWith_in_step identifier config m).mono fun created m' hcreated s hok => ?_
  refine (State.callAll_in_step (hcreated s hok) calls).mono fun s' m'' hstep => ?_
  exact ⟨hstep.same_id, s'.record, hstep.found, hstep.same_identifier, rfl, rfl, rfl, rfl⟩

/-! ## A refusal at the end of an execution -/

/-- A request of another kind than one to the store may have any answer. -/
theorem ends_other_refusing {effect : Effect} {next : effect.Answer → Task α} {a : α}
    (answer : effect.Answer) (heffect : ∀ call, effect ≠ .store call)
    (hnext : (next answer).Ends MayRefuse m a m') :
    (Flow.ask effect next : Task α).Ends MayRefuse m a m' :=
  .ask (.other heffect answer m) hnext

/-- A run of a micro benchmark that came without a file. -/
def unfiledRun : State :=
  { defaultRun { source := "cron", gitRef := "4be2a1f", benchmarkType := "micro" } "" with
    configPath := none }

/-- The run that came without a file may be created. -/
theorem unfiledRun_created :
    (createWith unfiledRun.identifier {}).Ends MayRefuse {} (.ok unfiledRun)
      ⟨[unfiledRun.record]⟩ := by
  refine ends_other_refusing Uuid.nil (fun _ => Effect.noConfusion) ?_
  refine ends_other_refusing (.ok 0) (fun _ => Effect.noConfusion) ?_
  refine ends_other_refusing () (fun _ => Effect.noConfusion) ?_
  refine ends_other_refusing () (fun _ => Effect.noConfusion) ?_
  refine ends_other_refusing (default : Timestamp) (fun _ => Effect.noConfusion) ?_
  refine .ask (.answered (.insert unfiledRun.record) {}) ?_
  refine ends_other_refusing () (fun _ => Effect.noConfusion) ?_
  exact .done _ _

/-- The run after it was prepared and executed with success, if the store refused to record the end. -/
def unfiledRunOpen : State :=
  let dir := Machine.joinNames unfiledRun.config.rootDir unfiledRun.id.text
  let ready := { unfiledRun with
    dirPath := some dir, configPath := some (Machine.joinNames dir resolvedConfigFile)
    prepared := true }
  (ready.withStatus .started default).withVariables ["10.0.0.1"]

/-- The store may refuse to record the end of an execution. -/
theorem unfiledRun_refused :
    (unfiledRun.callAll [.prepare, .execute defaultDeadline]).Ends MayRefuse ⟨[unfiledRun.record]⟩
      unfiledRunOpen ⟨[unfiledRunOpen.record]⟩ := by
  refine ends_other_refusing (.ok ()) (fun _ => Effect.noConfusion) ?_
  refine ends_other_refusing (.ok ()) (fun _ => Effect.noConfusion) ?_
  refine ends_other_refusing (.ok ()) (fun _ => Effect.noConfusion) ?_
  -- The execution: its start is recorded, both calls on the provider return in time.
  refine ends_other_refusing (default : Timestamp) (fun _ => Effect.noConfusion) ?_
  refine .ask (.answered (.updateStatus unfiledRun.id .started default) _) ?_
  refine ends_other_refusing (default : Instant) (fun _ => Effect.noConfusion) ?_
  refine ends_other_refusing (.returned (.ok ["10.0.0.1"])) (fun _ => Effect.noConfusion) ?_
  refine ends_other_refusing (.returned (.ok ())) (fun _ => Effect.noConfusion) ?_
  -- Its end is not.
  refine ends_other_refusing (default : Timestamp) (fun _ => Effect.noConfusion) ?_
  refine .ask (.refused (.updateStatus unfiledRun.id .finished default) (.database "gone") _) ?_
  exact .done _ _

/-- When the store refuses to record the end of an execution, the run and its record both stay
started. -/
theorem record_in_step_refused : ∃ record,
    (⟨[unfiledRunOpen.record]⟩ : Memory).get? unfiledRun.id = some record ∧
      record.identifier = unfiledRun.identifier ∧ record.status = .started ∧
      record.finishedAt = none := by
  have hcreated := record_in_step unfiledRun.identifier {} [.prepare, .execute defaultDeadline] {}
  have hcalled := hcreated.ensures _ _ unfiledRun_created unfiledRun rfl
  obtain ⟨-, record, hfound, hidentifier, hstatus, -, -, hfinished⟩ :=
    hcalled.ensures _ _ unfiledRun_refused
  exact ⟨record, hfound, hidentifier, hstatus, hfinished⟩

end BenchQueue.Run
