import BenchQueue.Proofs.Run.InStep
import Mathlib.Data.List.Induction

/-!
# What the calls on a run do to it

The owner of a run makes calls on it, in any order and as often as wanted. A log has the calls that were
made with their results, the first one first. What a call may do to the run depends on its result and not on
the surroundings, so that a property of a run after all calls is proved call by call.
-/

namespace BenchQueue.Run

open BenchQueue.Flow (ends_bind_iff)

variable {σ : Type} {answers : Flow.Surroundings Effects σ} {s s' : State} {t t' : σ}

/-! ## Logs -/

/-- A call that was made on a run, with its result. -/
abbrev LogEntry := OwnerCall × Except Error Unit

/-- The calls of a log may lead from a run and its surroundings to others. -/
inductive CallLog (answers : Flow.Surroundings Effects σ) (s : State) (t : σ) :
    List LogEntry → State → σ → Prop
  | nil : CallLog answers s t [] s t
  | concat {log : List LogEntry} {s' s'' : State} {t' t'' : σ} {c : OwnerCall}
      {result : Except Error Unit} (hlog : CallLog answers s t log s' t')
      (hcall : (s'.call c).Ends answers t' (result, s'') t'') :
      CallLog answers s t (log ++ [(c, result)]) s'' t''

namespace State

/-- The last of some calls is made on what the others have left. -/
theorem callAll_concat (s : State) (calls : List OwnerCall) (c : OwnerCall) :
    s.callAll (calls ++ [c]) =
      (s.callAll calls).bind fun s' => (s'.call c).bind fun r => .done r.2 := by
  induction calls generalizing s with
  | nil => rfl
  | cons first rest ih =>
    show ((s.call first).bind fun r => r.2.callAll (rest ++ [c])) =
      ((s.call first).bind fun r => r.2.callAll rest).bind _
    rw [Flow.bind_assoc]
    simp only [ih]

/-- To make calls in turn is to come to the end of a log of these calls. -/
theorem callAll_ends_iff {calls : List OwnerCall} :
    (s.callAll calls).Ends answers t s' t' ↔
      ∃ log, log.map Prod.fst = calls ∧ CallLog answers s t log s' t' := by
  induction calls using List.reverseRecOn generalizing s' t' with
  | nil =>
    constructor
    · intro h
      cases h
      exact ⟨[], rfl, .nil⟩
    · rintro ⟨log, hcalls, hlog⟩
      obtain rfl := List.map_eq_nil_iff.mp hcalls
      generalize hempty : ([] : List LogEntry) = log at hlog
      cases hlog with
      | nil => exact .done _ _
      | concat _ _ => simp at hempty
  | append_singleton calls c ih =>
    rw [callAll_concat, ends_bind_iff]
    constructor
    · rintro ⟨s'', t'', hfirst, hlast⟩
      obtain ⟨⟨result, last⟩, t''', hcall, hdone⟩ := ends_bind_iff.mp hlast
      cases hdone
      obtain ⟨log, rfl, hlog⟩ := ih.mp hfirst
      exact ⟨log ++ [(c, result)], by simp, hlog.concat hcall⟩
    · rintro ⟨log, hcalls, hlog⟩
      cases hlog with
      | nil => simp at hcalls
      | concat hlog hcall =>
        rw [List.map_append] at hcalls
        obtain ⟨rfl, hc⟩ := List.append_inj' hcalls rfl
        obtain rfl := List.singleton_inj.mp hc
        exact ⟨_, _, ih.mpr ⟨_, rfl, hlog⟩, ends_bind_iff.mpr ⟨_, _, hcall, .done _ _⟩⟩

end State

/-! ## New runs -/

/-- A run for an identifier may be created, with a configuration or from the file of one. -/
inductive Created (answers : Flow.Surroundings Effects σ) (t : σ) (identifier : Identifier) (s : State)
    (t' : σ) : Prop
  | configured {config : Config} (h : (createWith identifier config).Ends answers t (.ok s) t')
  | fromFile {configPath : String} (h : (create identifier configPath).Ends answers t (.ok s) t')

/-- Nothing was done yet with a run that was created for an identifier with a configuration, which came from
a file if a path is given. -/
structure State.Untouched (identifier : Identifier) (config : Config) (configPath : Option String)
    (s : State) : Prop where
  identifier : s.identifier = identifier
  config : s.config = config
  configPath : s.configPath = configPath
  workflow : s.workflow = s.config.workflow
  prepared : s.prepared = false

/-- A run that is created with a configuration has it. -/
theorem createWith_yields (identifier : Identifier) (config : Config) :
    (createWith identifier config).Yields fun r =>
      ∀ s, r = .ok s → s.Untouched identifier config none := by
  intro id answer
  cases answer with
  | error e => exact fun s h => nomatch h
  | ok provider =>
    intro _ _ now answer
    cases answer with
    | error e => exact fun s h => nomatch h
    | ok _ =>
      rintro _ s h
      cases h
      exact ⟨rfl, rfl, rfl, rfl, rfl⟩

/-- A run that is created from a file has the configuration that is read from the file, before anything
else. -/
theorem create_yields (identifier : Identifier) (configPath : String) :
    ∃ next, create identifier configPath = Flow.ask (S := Effects) (.readFile configPath) next ∧
      ∀ content, (next content).Yields fun r => ∀ s, r = .ok s →
        ∃ config, Config.ofFile configPath content = .ok config ∧
          s.Untouched identifier config (some configPath) := by
  refine ⟨_, rfl, fun content => ?_⟩
  simp only [Flow.bind]
  split
  · exact fun s h => by cases h
  · rename_i config hconfig
    refine (createWith_yields identifier config).bind fun r hr => ?_
    cases r with
    | error e => exact fun s h => by cases h
    | ok s =>
      rintro _ h
      cases h
      have hs := hr s rfl
      exact ⟨config, hconfig, hs.identifier, hs.config, rfl, hs.workflow, hs.prepared⟩

/-- A run that was created with a configuration has it, and came from no file. -/
theorem untouched_of_createWith {identifier : Identifier} {config : Config}
    (h : (createWith identifier config).Ends answers t (.ok s) t') :
    s.Untouched identifier config none :=
  (createWith_yields _ _).ensures _ _ h s rfl

/-- The creation of a run from a file starts with the answer to the reading of the file. -/
theorem untouched_of_create {identifier : Identifier} {configPath : String}
    (h : (create identifier configPath).Ends answers t (.ok s) t') :
    ∃ content config t₁, answers (.readFile configPath) t content t₁ ∧
      (∃ rest : Task (Except Error State), rest.Ends answers t₁ (.ok s) t') ∧
      Config.ofFile configPath content = .ok config ∧
        s.Untouched identifier config (some configPath) := by
  obtain ⟨next, hcreate, hnext⟩ := create_yields identifier configPath
  rw [hcreate] at h
  cases h with
  | @ask _ _ _ t₁ _ content _ hanswer hends =>
    obtain ⟨config, hconfig, huntouched⟩ := (hnext content).ensures _ _ hends s rfl
    exact ⟨content, config, t₁, hanswer, ⟨_, hends⟩, hconfig, huntouched⟩

/-- Nothing was done yet with a run that may be created. -/
theorem Created.untouched {identifier : Identifier} (h : Created answers t identifier s t') :
    ∃ config configPath, s.Untouched identifier config configPath := by
  cases h with
  | configured h => exact ⟨_, _, untouched_of_createWith h⟩
  | fromFile h =>
    obtain ⟨_, _, _, _, _, _, huntouched⟩ := untouched_of_create h
    exact ⟨_, _, huntouched⟩

/-- A run that may be created is not prepared. -/
theorem Created.prepared_eq_false {identifier : Identifier} (h : Created answers t identifier s t') :
    s.prepared = false := by
  obtain ⟨_, _, huntouched⟩ := h.untouched
  exact huntouched.prepared

/-! ## What a call does -/

namespace State

/-- The directory of a run. -/
def directory (s : State) : String := Machine.joinNames s.config.rootDir s.id.text

/-- The file with the configuration of a run: the one it came from, or the one in its directory. -/
def configFile (s : State) : String :=
  s.configPath.getD (Machine.joinNames s.directory resolvedConfigFile)

/-- A run has another status and other times, and is the same otherwise. -/
def Moved (s s' : State) : Prop :=
  ∃ status startedAt finishedAt, s' = { s with status, startedAt, finishedAt }

/-- A run that nothing was done with has moved. -/
theorem moved_refl (s : State) : s.Moved s := ⟨s.status, s.startedAt, s.finishedAt, rfl⟩

/-- To move twice is to move. -/
theorem Moved.trans {s'' : State} (h : s.Moved s') (h' : s'.Moved s'') : s.Moved s'' := by
  obtain ⟨_, _, _, rfl⟩ := h
  obtain ⟨status, startedAt, finishedAt, rfl⟩ := h'
  exact ⟨status, startedAt, finishedAt, rfl⟩

/-- The variables that a run gives to its workflow do not depend on its status and its times. -/
theorem Moved.withVariables (h : s.Moved s') (hosts : List String) :
    (s.withVariables hosts).Moved (s'.withVariables hosts) := by
  obtain ⟨status, startedAt, finishedAt, rfl⟩ := h
  have same : ({ s with status, startedAt, finishedAt } : State).runVariables hosts =
    s.runVariables hosts := rfl
  refine ⟨status, startedAt, finishedAt, ?_⟩
  simp only [State.withVariables, same]

/-- What a call with a result may do to a run. -/
inductive Step (s : State) : OwnerCall → Except Error Unit → State → Prop
  | again (hprepared : s.prepared = true) : Step s .prepare (.ok ()) s
  | prepared (hprepared : s.prepared = false) :
      Step s .prepare (.ok ()) { s with
        dirPath := some s.directory
        configPath := some s.configFile
        workflow := { s.workflow with extraVars := s.config.workflow.extraVars }
        prepared := true }
  | unprepared (hprepared : s.prepared = false) (e : Error) (dirPath : Option String) :
      Step s .prepare (.error e) { s with dirPath }
  | opened {dir : String} (hdir : s.dirPath = some dir) (hprepared : s.prepared = true) :
      Step s .openOutputs (.ok ()) { s with
        logPath := some (Machine.joinNames dir stdoutFile)
        workflow := { s.workflow with
          stdoutPath := some (Machine.joinNames dir stdoutFile)
          stderrPath := some (Machine.joinNames dir stderrFile) } }
  | unopened (e : Error) (logPath : Option String) :
      Step s .openOutputs (.error e) { s with logPath }
  | executed {s' : State} (deadline : Duration) (result : Except Error Unit) (h : s.Moved s') :
      Step s (.execute deadline) result s'
  | provided {s' : State} (hprepared : s.prepared = true) (deadline : Duration)
      (result : Except Error Unit) (hosts : List String) (h : (s.withVariables hosts).Moved s') :
      Step s (.execute deadline) result s'
  | cleanedUp (result : Except Error Unit) : Step s .cleanUp result s
  | concluded : Step s .conclude (.ok ()) s

/-- A resolved configuration is in the file that it came from, or in the one that was written into
the directory. -/
theorem resolveConfig_yields_file (s : State) (dir : String) :
    (s.resolveConfig dir).Yields fun r => ∀ s', r = .ok s' → s' = { s with
      configPath := some (s.configPath.getD (Machine.joinNames dir resolvedConfigFile)) } := by
  unfold resolveConfig
  split
  · rename_i path hpath
    rintro s' h
    cases h
    rw [hpath, Option.getD_some, ← hpath]
  · rename_i hpath
    split
    · exact fun s' h => nomatch h
    · intro answer
      cases answer with
      | error fault => exact fun s' h => nomatch h
      | ok _ =>
        rintro s' h
        cases h
        rw [hpath, Option.getD_none]

/-- A preparation does what belongs to its result. -/
theorem prepare_yields_step (s : State) : s.prepare.Yields fun r => s.Step .prepare r.1 r.2 := by
  unfold prepare
  split
  · exact .again ‹_›
  · have hprepared : s.prepared = false := by simpa using ‹¬ s.prepared = true›
    intro answer
    cases answer with
    | error fault => exact .unprepared hprepared _ s.dirPath
    | ok _ =>
      intro answer
      cases answer with
      | error e => exact .unprepared hprepared _ (some s.directory)
      | ok _ =>
        refine (resolveConfig_yields_file _ _).bind fun resolved hresolved => ?_
        cases resolved with
        | error e => exact .unprepared hprepared e (some s.directory)
        | ok s' =>
          obtain rfl := hresolved s' rfl
          exact .prepared hprepared

/-- The opening of the logs does what belongs to its result. -/
theorem openOutputs_yields_step (s : State) :
    s.openOutputs.Yields fun r => s.Step .openOutputs r.1 r.2 := by
  unfold openOutputs
  split
  · rename_i dir hdir hprepared
    intro answer
    cases answer with
    | error fault => exact .unopened _ s.logPath
    | ok _ =>
      intro answer
      cases answer with
      | error fault => exact .unopened _ (some (Machine.joinNames dir stdoutFile))
      | ok _ => exact .opened hdir hprepared
  · exact .unopened _ s.logPath

/-- A transition changes the status and the times at most. -/
theorem transition_yields (s : State) (status : Status) :
    (s.transition status).Yields fun r => s.Moved r.2 := by
  intro now answer
  cases answer with
  | error e => exact moved_refl s
  | ok _ => exact ⟨_, _, _, rfl⟩

/-- The end of an execution changes the status and the times at most. -/
theorem conclude_yields (s : State) (result : Except Error Unit) :
    (s.conclude result).Yields fun r => s.Moved r.2 := by
  refine (transition_yields s _).bind fun r hmoved => ?_
  obtain ⟨recorded, s'⟩ := r
  match result, recorded with
  | .ok (), _ => exact hmoved
  | .error e, .ok () => exact (log_yields s' _).bind fun _ _ => hmoved
  | .error e, .error _ => exact hmoved

/-- An execution provides the workflow with the variables of the run, or it does not get that far. -/
theorem provisionAndRun_yields_variables (s : State) (deadline : Duration) (limit : Option Instant) :
    (s.provisionAndRun deadline limit).Yields fun r =>
      r.2 = s ∨ ∃ hosts, r.2 = s.withVariables hosts := by
  intro answer
  cases answer with
  | expired | panicked => exact Or.inl rfl
  | returned result =>
    cases result with
    | error e => exact Or.inl rfl
    | ok hosts =>
      have hany : ((s.withVariables hosts).runWorkflow deadline limit).Yields fun _ => True := by
        intro answer
        cases answer with
        | expired | panicked => trivial
        | returned result => cases result <;> trivial
      exact hany.bind fun _ _ => Or.inr ⟨hosts, rfl⟩

/-- An execution does what belongs to its result, however far it gets. -/
theorem execute_yields_step (s : State) (deadline : Duration) :
    (s.execute deadline).Yields fun r => s.Step (.execute deadline) r.1 r.2 := by
  unfold execute
  split
  · exact .executed deadline _ (moved_refl s)
  · have hprepared : s.prepared = true := by simpa using ‹¬ (!s.prepared) = true›
    refine (transition_yields s .started).bind fun r hstarted => ?_
    obtain ⟨started, s'⟩ := r
    cases started with
    | error e => exact .executed deadline _ hstarted
    | ok _ =>
      refine (log_yields s' _).bind fun _ _ now => ?_
      refine (provisionAndRun_yields_variables s' deadline _).bind fun r hran => ?_
      obtain ⟨result, s''⟩ := r
      refine Flow.Yields.mono (conclude_yields s'' result) fun r hmoved => ?_
      rcases hran with rfl | ⟨hosts, rfl⟩
      · exact .executed deadline _ (hstarted.trans hmoved)
      · exact .provided hprepared deadline _ hosts ((hstarted.withVariables hosts).trans hmoved)

/-- Whatever is answered, a call does to the run what belongs to its result. -/
theorem call_yields (s : State) (c : OwnerCall) : (s.call c).Yields fun r => s.Step c r.1 r.2 := by
  cases c with
  | prepare => exact prepare_yields_step s
  | openOutputs => exact openOutputs_yields_step s
  | execute deadline => exact execute_yields_step s deadline
  | cleanUp => exact (cleanUp_yields s).bind fun result _ => .cleanedUp result
  | conclude => exact .concluded

/-- A call that has ended has done what belongs to its result. -/
theorem step_of_ends {c : OwnerCall} {result : Except Error Unit}
    (h : (s.call c).Ends answers t (result, s') t') : s.Step c result s' :=
  (call_yields s c).ensures _ _ h

/-- A run is prepared by the calls that prepare it with success, and stays prepared. -/
theorem Step.prepared_iff {c : OwnerCall} {result : Except Error Unit} (h : s.Step c result s') :
    s'.prepared = true ↔ s.prepared = true ∨ (c, result) = (.prepare, .ok ()) := by
  cases h with
  | again hprepared => simp [hprepared]
  | prepared _ => simp
  | unprepared hprepared _ _ => simp [hprepared]
  | opened _ hprepared => simp
  | unopened _ _ => simp
  | executed _ _ h =>
    obtain ⟨_, _, _, rfl⟩ := h
    simp
  | provided hprepared _ _ _ h =>
    obtain ⟨_, _, _, rfl⟩ := h
    simp [withVariables]
  | cleanedUp _ => simp
  | concluded => simp

end State

/-- A run is prepared exactly if it was prepared with success once. -/
theorem CallLog.prepared_iff {log : List LogEntry} (hnew : s.prepared = false)
    (h : CallLog answers s t log s' t') :
    s'.prepared = true ↔ (.prepare, .ok ()) ∈ log := by
  induction h with
  | nil => simp [hnew]
  | concat hlog hcall ih =>
    rw [(State.step_of_ends hcall).prepared_iff, ih, List.mem_append, List.mem_singleton, eq_comm]

end BenchQueue.Run
