import BenchQueue.Proofs.Members
import BenchQueue.Proofs.Run.CallLog
import BenchQueue.Proofs.Run.Release

/-!
# What a workflow is given

A run keeps a copy of its configured workflow and changes it in three of its calls. Whatever calls were made
before and whatever was answered, a workflow that is handed to the provider is the configured one with the
log files of the run, if they were opened, and with seven variables of the run, which outweigh configured
ones. The hosts among them are those that were provisioned right before.
-/

namespace BenchQueue.Run

open BenchQueue.Flow (noted ensures_done ensures_ask)
open BenchQueue.Infra (Call Ended Workflow)

variable {α : Type} {s s' s₀ : State} {log : List LogEntry} {c : OwnerCall}
  {result : Except Error Unit} {hosts : List String} {name : String}

/-! ## Setting variables -/

/-- Nothing is found exactly under the names that are not there. -/
theorem find?_eq_none_iff {members : Members Json} :
    members.find? name = none ↔ name ∉ members.names := by
  induction members with
  | nil => simp [Members.find?, Members.names]
  | cons first rest ih =>
    rw [Members.find?, Members.names, List.map_cons, List.mem_cons, not_or, ← Members.names, ← ih]
    by_cases hname : name = first.1 <;> simp [hname]

/-- A workflow with some variables set, one after the other. -/
def setVars (vars : Members Json) (w : Workflow) : Workflow :=
  vars.foldl (fun w e => w.setVar e.1 e.2) w

/-- Setting variables changes nothing else of a workflow. -/
theorem setVars_eq (vars : Members Json) (w : Workflow) :
    setVars vars w = { w with extraVars := (setVars vars w).extraVars } := by
  induction vars generalizing w with
  | nil => rfl
  | cons first rest ih => exact ih (w.setVar first.1 first.2)

/-- Variables that are set, each once, are found before those that were there. -/
theorem find?_setVars {vars : Members Json} (h : vars.names.Nodup) (w : Workflow) (name : String) :
    (setVars vars w).extraVars.find? name = (vars.find? name).or (w.extraVars.find? name) := by
  induction vars generalizing w with
  | nil => rfl
  | cons first rest ih =>
    obtain ⟨hfirst, hrest⟩ := List.nodup_cons.mp h
    rw [setVars, List.foldl_cons, ← setVars, ih hrest, Workflow.setVar, Members.find?_insert,
      Members.find?]
    by_cases hname : name = first.1
    · rw [if_pos hname, if_pos hname, hname, find?_eq_none_iff.mpr hfirst]
      rfl
    · rw [if_neg hname, if_neg hname]

/-- Setting variables keeps them in the order of their names. -/
theorem increasing_setVars (vars : Members Json) {w : Workflow} (h : w.extraVars.Increasing) :
    (setVars vars w).extraVars.Increasing := by
  induction vars generalizing w with
  | nil => exact h
  | cons first rest ih => exact ih (h.insert ..)

/-! ## The workflow between two calls -/

/-- The variables that a run gives to its workflow. -/
def State.ownVariables (s : State) (hosts : List String) : Members Json :=
  [("benchrun_exec_uuid", .str s.id.text), ("benchrun_source", .str s.identifier.source),
    ("benchrun_git_ref", .str s.identifier.gitRef),
    ("benchrun_planner_version", .str s.identifier.plannerVersion),
    ("benchrun_pull_nb", .int s.identifier.pullNumber.toInt),
    ("benchrun_hosts", .arr (hosts.map .str)), ("benchrun_config_path", .str s.configFile)]

/-- The variables of a run have seven different names. -/
theorem State.nodup_ownVariables (s : State) (hosts : List String) :
    (s.ownVariables hosts).names.Nodup := by
  simp [ownVariables, Members.names]

/-- The names of the variables do not depend on the hosts. -/
theorem State.ownVariables_names (s : State) (hosts hosts' : List String) :
    (s.ownVariables hosts).names = (s.ownVariables hosts').names := rfl

/-- A workflow is the configured one of a run up to its variables, and its output goes to the log files of
the run exactly if they were opened. -/
structure Furnished (s₀ : State) (log : List LogEntry) (w : Workflow) : Prop where
  command : w.command = s₀.config.workflow.command
  playbooks : w.playbooks = s₀.config.workflow.playbooks
  inventory : w.inventory = s₀.config.workflow.inventory
  workingDir : w.workingDir = s₀.config.workflow.workingDir
  opened : (.openOutputs, .ok ()) ∈ log →
    w.stdoutPath = some (Machine.joinNames s₀.directory stdoutFile) ∧
      w.stderrPath = some (Machine.joinNames s₀.directory stderrFile)
  unopened : (.openOutputs, .ok ()) ∉ log → w.stdoutPath = none ∧ w.stderrPath = none

/-- Whether a workflow is furnished does not depend on its variables. -/
theorem Furnished.withVars {w : Workflow} (h : Furnished s₀ log w) (vars : Members Json) :
    Furnished s₀ log { w with extraVars := vars } :=
  ⟨h.command, h.playbooks, h.inventory, h.workingDir, h.opened, h.unopened⟩

/-- A call other than a successful opening of the logs leaves the files for the output as they are.
-/
theorem Furnished.concat {w : Workflow} (h : Furnished s₀ log w)
    (hother : (c, result) ≠ (.openOutputs, .ok ())) : Furnished s₀ (log ++ [(c, result)]) w := by
  have hsame : (.openOutputs, .ok ()) ∈ log ++ [(c, result)] ↔ (.openOutputs, .ok ()) ∈ log := by
    rw [List.mem_append, List.mem_singleton, or_iff_left hother.symm]
  exact ⟨h.command, h.playbooks, h.inventory, h.workingDir, fun hin => h.opened (hsame.mp hin),
    fun hnot => h.unopened (hnot ∘ hsame.mpr)⟩

/-- What a run still has of its beginning after some calls. Other variables than its own are the configured
ones; its own may be left over from an execution. -/
structure Carries (s₀ : State) (log : List LogEntry) (s : State) : Prop where
  id : s.id = s₀.id
  identifier : s.identifier = s₀.identifier
  config : s.config = s₀.config
  furnished : Furnished s₀ log s.workflow
  apart : ∀ name, name ∉ (s₀.ownVariables []).names →
    s.workflow.extraVars.find? name = s₀.config.workflow.extraVars.find? name
  increasing : s₀.config.workflow.extraVars.Increasing → s.workflow.extraVars.Increasing
  unprepared : s.prepared = false → s.configPath = s₀.configPath
  prepared : s.prepared = true → s.dirPath = some s₀.directory ∧ s.configPath = some s₀.configFile

/-- A run that was just created has all of its beginning. -/
theorem carries_nil {identifier : Identifier} {config : Config} {configPath : Option String}
    (h : s₀.Untouched identifier config configPath)
    (hstdout : s₀.config.workflow.stdoutPath = none)
    (hstderr : s₀.config.workflow.stderrPath = none) : Carries s₀ [] s₀ where
  id := rfl
  identifier := rfl
  config := rfl
  furnished := by
    rw [h.workflow]
    exact ⟨rfl, rfl, rfl, rfl, fun hin => absurd hin List.not_mem_nil, fun _ => ⟨hstdout, hstderr⟩⟩
  apart _ _ := by rw [h.workflow]
  increasing hvars := by rwa [h.workflow]
  unprepared _ := rfl
  prepared hprepared := by simp [h.prepared] at hprepared

namespace Carries

/-- The directory of a run stays the same. -/
theorem directory_eq (h : Carries s₀ log s) : s.directory = s₀.directory := by
  rw [State.directory, State.directory, h.config, h.id]

/-- A prepared run gives its own variables to the workflow. -/
theorem runVariables_eq (h : Carries s₀ log s) (hprepared : s.prepared = true) (hosts : List String) :
    s.runVariables hosts = s₀.ownVariables hosts := by
  rw [State.runVariables, (h.prepared hprepared).2, h.id, h.identifier]
  rfl

/-- A prepared run sets its seven variables in its workflow and leaves the others. -/
theorem workflow_withVariables (h : Carries s₀ log s) (hprepared : s.prepared = true)
    (hosts : List String) :
    (s.withVariables hosts).workflow = setVars (s₀.ownVariables hosts) s.workflow := by
  rw [State.withVariables, h.runVariables_eq hprepared]
  rfl

/-- The same run with another status and other times, and one more call in the log. -/
theorem moved (h : Carries s₀ log s) (hmoved : s.Moved s')
    (hother : (c, result) ≠ (.openOutputs, .ok ())) : Carries s₀ (log ++ [(c, result)]) s' := by
  obtain ⟨_, _, _, rfl⟩ := hmoved
  exact ⟨h.id, h.identifier, h.config, h.furnished.concat hother, h.apart, h.increasing, h.unprepared,
    h.prepared⟩

/-- A run that has given its variables to its workflow still has what there is of its beginning. -/
theorem withVariables (h : Carries s₀ log s) (hprepared : s.prepared = true) (hosts : List String) :
    Carries s₀ log (s.withVariables hosts) where
  id := h.id
  identifier := h.identifier
  config := h.config
  furnished := by
    rw [h.workflow_withVariables hprepared, setVars_eq]
    exact h.furnished.withVars _
  apart name hname := by
    rw [h.workflow_withVariables hprepared, find?_setVars (s₀.nodup_ownVariables hosts),
      find?_eq_none_iff.mpr (s₀.ownVariables_names hosts [] ▸ hname), h.apart name hname]
    rfl
  increasing hvars := by
    rw [h.workflow_withVariables hprepared]
    exact increasing_setVars _ (h.increasing hvars)
  unprepared := h.unprepared
  prepared := h.prepared

/-- Every call leaves what there is of the beginning. -/
theorem step (h : Carries s₀ log s) (hstep : s.Step c result s') :
    Carries s₀ (log ++ [(c, result)]) s' := by
  cases hstep with
  | again _ => exact h.moved (s.moved_refl) nofun
  | cleanedUp _ => exact h.moved (s.moved_refl) nofun
  | concluded => exact h.moved (s.moved_refl) nofun
  | executed deadline _ hmoved => exact h.moved hmoved nofun
  | provided hprepared deadline _ hosts hmoved =>
    exact (h.withVariables hprepared hosts).moved hmoved nofun
  | prepared hprepared =>
    have hfurnished : Furnished s₀ (log ++ [(.prepare, .ok ())]) s.workflow :=
      h.furnished.concat nofun
    refine ⟨h.id, h.identifier, h.config, hfurnished.withVars _, ?_, ?_, nofun, ?_⟩
    · exact fun name _ => by rw [h.config]
    · exact fun hvars => by rwa [h.config]
    · refine fun _ => ⟨congrArg some h.directory_eq, congrArg some ?_⟩
      rw [State.configFile, State.configFile, h.unprepared hprepared, h.directory_eq]
  | unprepared hprepared e dirPath =>
    refine ⟨h.id, h.identifier, h.config, h.furnished.concat nofun, h.apart, h.increasing,
      h.unprepared, fun hnow => ?_⟩
    simp [hprepared] at hnow
  | opened hdir hprepared =>
    obtain rfl := Option.some.inj (hdir.symm.trans (h.prepared hprepared).1)
    refine ⟨h.id, h.identifier, h.config, ?_, h.apart, h.increasing, h.unprepared, h.prepared⟩
    exact ⟨h.furnished.command, h.furnished.playbooks, h.furnished.inventory, h.furnished.workingDir,
      fun _ => ⟨rfl, rfl⟩, fun hnot => absurd (List.mem_append_right _ (List.mem_singleton_self _)) hnot⟩
  | unopened e logPath =>
    exact ⟨h.id, h.identifier, h.config, h.furnished.concat nofun, h.apart, h.increasing, h.unprepared,
      h.prepared⟩

end Carries

/-- After any calls a run still has what there is of its beginning. -/
theorem CallLog.carries {σ : Type} {answers : Flow.Surroundings Effects σ} {t t' : σ}
    (h : Carries s₀ [] s₀) (hlog : CallLog answers s₀ t log s t') : Carries s₀ log s := by
  induction hlog with
  | nil => exact h
  | concat _ hcall ih => exact ih.step (State.step_of_ends hcall)

/-! ## The calls on the provider -/

section Calls

variable {history : List (Flow.Exchange Effects)}
  {Q : α → Unit × List (Flow.Exchange Effects) → Prop}

/-- One more exchange adds the call on the provider that it is, if it is one. -/
theorem calls_concat (history : List (Flow.Exchange Effects)) (x : Flow.Exchange Effects) :
    calls (history ++ [x]) = calls history ++ (called? x).toList :=
  Flow.filterMap_concat called? history x

/-- The next request is noted, with the call that it may be. -/
theorem ensures_noted {effect : Effect} {next : effect.Answer → Task α}
    (h : ∀ answer later, calls later = calls history ++ (called? ⟨effect, answer⟩).toList →
      (next answer).Ensures (noted anything) ((), later) Q) :
    (Flow.ask effect next : Task α).Ensures (noted anything) ((), history) Q := by
  refine ensures_ask ?_
  rintro answer ⟨⟨⟩, later⟩ ⟨-, rfl⟩
  exact h answer _ (calls_concat history _)

/-- What a call of the owner may ask of the provider. Only an execution runs a workflow, after it has
provisioned the hosts whose addresses it gives to the workflow. -/
inductive Asked (s : State) : OwnerCall → List Called → Prop
  | nothing (c : OwnerCall) : Asked s c []
  | prepared (ended : Ended (Call.Answer .prepare)) : Asked s .prepare [⟨.prepare, ended⟩]
  | cleanedUp (ended : Ended (Call.Answer .cleanUp)) : Asked s .cleanUp [⟨.cleanUp, ended⟩]
  | stopped (deadline : Duration) (ended : Ended (Call.Answer .provision)) :
      Asked s (.execute deadline) [⟨.provision, ended⟩]
  | ran (deadline : Duration) (hprepared : s.prepared = true) (hosts : List String)
      (ended : Ended (Call.Answer (.run (s.withVariables hosts).workflow))) :
      Asked s (.execute deadline) [⟨.provision, .returned (Except.ok hosts)⟩,
        ⟨.run (s.withVariables hosts).workflow, ended⟩]

namespace State

/-- Writing into a log makes no call on the provider. -/
theorem log_noted (s : State) (line : String) :
    (s.log line).Ensures (noted anything) ((), history) fun _ t => calls t.2 = calls history := by
  unfold log
  split
  · exact ensures_noted fun _ later hlater => ensures_done (hlater.trans (List.append_nil _))
  · exact ensures_done rfl

/-- A transition changes the status and the times at most, and makes no call on the provider. -/
theorem transition_noted (s : State) (status : Status) :
    (s.transition status).Ensures (noted anything) ((), history) fun r t =>
      s.Moved r.2 ∧ calls t.2 = calls history := by
  refine ensures_noted fun now later hlater => ensures_noted fun answer later' hlater' => ?_
  have hcalls : calls later' = calls history := by
    rw [hlater', hlater]
    exact (List.append_nil _).trans (List.append_nil _)
  cases answer with
  | error e => exact ensures_done ⟨s.moved_refl, hcalls⟩
  | ok _ => exact ensures_done ⟨⟨_, _, _, rfl⟩, hcalls⟩

/-- The end of an execution makes no call on the provider. -/
theorem conclude_noted (s : State) (result : Except Error Unit) :
    (s.conclude result).Ensures (noted anything) ((), history) fun _ t =>
      calls t.2 = calls history := by
  refine (transition_noted s _).bind fun r t h => ?_
  obtain ⟨recorded, s'⟩ := r
  obtain ⟨⟨⟩, later⟩ := t
  obtain ⟨-, hlater⟩ := h
  match result, recorded with
  | .ok (), _ => exact ensures_done hlater
  | .error e, .ok () =>
    exact (log_noted s' _).bind fun _ t hlogged => ensures_done (hlogged.trans hlater)
  | .error e, .error _ => exact ensures_done hlater

/-- The workflow that is handed over is the one that the run has. -/
theorem runWorkflow_noted (s : State) (deadline : Duration) (limit : Option Instant) :
    (s.runWorkflow deadline limit).Ensures (noted anything) ((), history) fun _ t =>
      ∃ ended, calls t.2 = calls history ++ [⟨.run s.workflow, ended⟩] := by
  refine ensures_noted fun ended later hlater => ?_
  cases ended with
  | expired | panicked => exact ensures_done ⟨_, hlater⟩
  | returned answer => cases answer <;> exact ensures_done ⟨_, hlater⟩

/-- A prepared run provisions first, and hands its workflow over with the hosts that were
provisioned. -/
theorem provisionAndRun_noted (hprepared : s.prepared = true) (deadline : Duration)
    (limit : Option Instant) :
    (s.provisionAndRun deadline limit).Ensures (noted anything) ((), history) fun _ t =>
      ∃ cs, calls t.2 = calls history ++ cs ∧ Asked s (.execute deadline) cs := by
  refine ensures_noted fun ended later hlater => ?_
  cases ended with
  | expired | panicked => exact ensures_done ⟨_, hlater, .stopped deadline _⟩
  | returned answer =>
    cases answer with
    | error e => exact ensures_done ⟨_, hlater, .stopped deadline _⟩
    | ok hosts =>
      refine (runWorkflow_noted (s.withVariables hosts) deadline limit).bind fun result t h => ?_
      obtain ⟨ended, hran⟩ := h
      refine ensures_done ⟨_, ?_, .ran deadline hprepared hosts ended⟩
      rw [hran, hlater]
      exact List.append_assoc _ _ _

/-- The status and the times of a run are not handed over. -/
theorem Moved.asked {cs : List Called} (h : s.Moved s') (hasked : Asked s' c cs) : Asked s c cs := by
  obtain ⟨_, _, _, rfl⟩ := h
  cases hasked with
  | nothing _ => exact .nothing _
  | prepared ended => exact .prepared ended
  | cleanedUp ended => exact .cleanedUp ended
  | stopped deadline ended => exact .stopped deadline ended
  | ran deadline hprepared hosts ended => exact Asked.ran (s := s) deadline hprepared hosts ended

/-- An execution asks the provider for what belongs to it and for nothing else. -/
theorem execute_noted (s : State) (deadline : Duration) :
    (s.execute deadline).Ensures (noted anything) ((), history) fun _ t =>
      ∃ cs, calls t.2 = calls history ++ cs ∧ Asked s (.execute deadline) cs := by
  unfold execute
  split
  · exact ensures_done ⟨[], (List.append_nil _).symm, .nothing _⟩
  · have hprepared : s.prepared = true := by simpa using ‹¬ (!s.prepared) = true›
    refine (transition_noted s .started).bind fun r t h => ?_
    obtain ⟨started, s'⟩ := r
    obtain ⟨⟨⟩, later⟩ := t
    obtain ⟨hmoved, hlater⟩ := h
    have hprepared' : s'.prepared = true := by
      obtain ⟨_, _, _, rfl⟩ := hmoved
      exact hprepared
    cases started with
    | error e => exact ensures_done ⟨[], hlater.trans (List.append_nil _).symm, .nothing _⟩
    | ok _ =>
      refine (log_noted s' _).bind fun _ t hlogged => ?_
      obtain ⟨⟨⟩, later'⟩ := t
      refine ensures_noted fun now later'' hlater'' => ?_
      refine (provisionAndRun_noted hprepared' deadline _).bind fun r t h => ?_
      obtain ⟨⟨⟩, last⟩ := t
      obtain ⟨cs, hlast, hasked⟩ := h
      refine (conclude_noted r.2 r.1).mono fun _ t hconcluded => ?_
      refine ⟨cs, ?_, hmoved.asked hasked⟩
      rw [hconcluded, hlast, hlater'', hlogged, hlater]
      exact congrArg (· ++ cs) (List.append_nil _)

/-- Resolving the configuration makes no call on the provider. -/
theorem resolveConfig_noted (s : State) (dir : String) :
    (s.resolveConfig dir).Ensures (noted anything) ((), history) fun _ t =>
      calls t.2 = calls history := by
  unfold resolveConfig
  split
  · exact ensures_done rfl
  · split
    · exact ensures_done rfl
    · refine ensures_noted fun answer later hlater => ?_
      cases answer <;> exact ensures_done (hlater.trans (List.append_nil _))

/-- A preparation asks the provider to prepare at most. -/
theorem prepare_noted (s : State) :
    s.prepare.Ensures (noted anything) ((), history) fun _ t =>
      ∃ cs, calls t.2 = calls history ++ cs ∧ Asked s .prepare cs := by
  unfold prepare
  split
  · exact ensures_done ⟨[], (List.append_nil _).symm, .nothing _⟩
  · refine ensures_noted fun answer later hlater => ?_
    cases answer with
    | error fault => exact ensures_done ⟨[], hlater, .nothing _⟩
    | ok _ =>
      refine ensures_noted fun answer later' hlater' => ?_
      rw [hlater, List.append_assoc] at hlater'
      cases answer with
      | error e => exact ensures_done ⟨_, hlater', .prepared _⟩
      | ok _ =>
        refine (resolveConfig_noted _ _).bind fun resolved t h => ?_
        cases resolved <;> exact ensures_done ⟨_, h.trans hlater', .prepared _⟩

/-- Opening the logs makes no call on the provider. -/
theorem openOutputs_noted (s : State) :
    s.openOutputs.Ensures (noted anything) ((), history) fun _ t => calls t.2 = calls history := by
  unfold openOutputs
  split
  · refine ensures_noted fun answer later hlater => ?_
    have hcalls := hlater.trans (List.append_nil _)
    cases answer with
    | error fault => exact ensures_done hcalls
    | ok _ =>
      refine ensures_noted fun answer later' hlater' => ?_
      have hcalls' := (hlater'.trans (List.append_nil _)).trans hcalls
      cases answer <;> exact ensures_done hcalls'
  · exact ensures_done rfl

/-- A clean up asks the provider to clean up and for nothing else. -/
theorem cleanUp_noted (s : State) :
    s.cleanUp.Ensures (noted anything) ((), history) fun _ t =>
      ∃ cs, calls t.2 = calls history ++ cs ∧ Asked s .cleanUp cs := by
  refine ensures_noted fun answer later hlater => ?_
  cases answer <;> exact ensures_done ⟨_, hlater, .cleanedUp _⟩

/-- What is asked of the provider in a call of the owner, whatever is answered. -/
theorem call_noted (s : State) (c : OwnerCall) :
    (s.call c).Ensures (noted anything) ((), history) fun _ t =>
      ∃ cs, calls t.2 = calls history ++ cs ∧ Asked s c cs := by
  cases c with
  | prepare => exact prepare_noted s
  | openOutputs =>
    refine (openOutputs_noted s).mono fun _ t h => ⟨[], ?_, .nothing _⟩
    rw [h, List.append_nil]
  | execute deadline => exact execute_noted s deadline
  | cleanUp => exact (cleanUp_noted s).bind fun _ t h => ensures_done h
  | conclude => exact ensures_done ⟨[], (List.append_nil _).symm, .nothing _⟩

end State

end Calls

/-! ## The workflow that is handed over -/

/-- A workflow is the configured one of a run, with the log files of the run if they were opened, and with
the variables of the run for the hosts in place of configured ones. -/
structure HandedOver (s₀ : State) (log : List LogEntry) (hosts : List String) (w : Workflow) : Prop
    extends Furnished s₀ log w where
  vars : ∀ name, w.extraVars.find? name =
    ((s₀.ownVariables hosts).find? name).or (s₀.config.workflow.extraVars.find? name)
  increasing : s₀.config.workflow.extraVars.Increasing → w.extraVars.Increasing

/-- A prepared run hands over the configured workflow with its own variables in front of the
configured ones. -/
theorem Carries.handedOver (h : Carries s₀ log s) (hprepared : s.prepared = true)
    (hosts : List String) : HandedOver s₀ log hosts (s.withVariables hosts).workflow where
  toFurnished := (h.withVariables hprepared hosts).furnished
  vars name := by
    rw [h.workflow_withVariables hprepared, find?_setVars (s₀.nodup_ownVariables hosts)]
    cases hown : (s₀.ownVariables hosts).find? name with
    | some value => rfl
    | none =>
      rw [find?_eq_none_iff, s₀.ownVariables_names hosts []] at hown
      exact h.apart name hown
  increasing := (h.withVariables hprepared hosts).increasing

/-- A run has the configuration that it was created with, or the one that was first of all read from the
file that it was created from. Whatever calls were made on a run whose configuration names no files for the
output, and whatever was answered, a call hands a workflow over at most once, right after provisioning in
the same execution, and the workflow is the configured one with the log files of the run if they were
opened, and with the seven variables of the run, the provisioned hosts among them, in place of configured
ones. -/
theorem workflow_handed_over {before t t' : Unit × List (Flow.Exchange Effects)}
    {identifier : Identifier} {t₀ : Unit × List (Flow.Exchange Effects)}
    (hcreated : Created (noted anything) before identifier s₀ t₀)
    (hstdout : s₀.config.workflow.stdoutPath = none)
    (hstderr : s₀.config.workflow.stderrPath = none)
    (hlog : CallLog (noted anything) s₀ t₀ log s t)
    (hcall : (s.call c).Ends (noted anything) t (result, s') t') :
    s₀.identifier = identifier ∧
      (∀ config, (createWith identifier config).Ends (noted anything) before (.ok s₀) t₀ →
        s₀.config = config ∧ s₀.configPath = none) ∧
      (∀ configPath, (create identifier configPath).Ends (noted anything) before (.ok s₀) t₀ →
        s₀.configPath = some configPath ∧
          ∃ content, before.2 ++ [⟨.readFile configPath, content⟩] <+: t₀.2 ∧
            Config.ofFile configPath content = .ok s₀.config) ∧
      ∃ cs, calls t'.2 = calls t.2 ++ cs ∧
        ∀ w ended, ⟨.run w, ended⟩ ∈ cs → ∃ hosts,
          cs = [⟨.provision, .returned (Except.ok hosts)⟩, ⟨.run w, ended⟩] ∧
            HandedOver s₀ log hosts w := by
  obtain ⟨_, _, huntouched⟩ := hcreated.untouched
  have hcarries := hlog.carries (carries_nil huntouched hstdout hstderr)
  obtain ⟨⟨⟩, history⟩ := t
  obtain ⟨cs, hcalls, hasked⟩ := s.call_noted c _ _ hcall
  refine ⟨huntouched.identifier, fun config h => ?_, fun configPath h => ?_, cs, hcalls,
    fun w ended hran => ?_⟩
  · have hgiven := untouched_of_createWith h
    exact ⟨hgiven.config, hgiven.configPath⟩
  · obtain ⟨content, config, t₁, hread, ⟨rest, hrest⟩, hconfig, hfile⟩ := untouched_of_create h
    exact ⟨hfile.configPath, content, hread.2 ▸ hrest.prefix_of_noted, hfile.config ▸ hconfig⟩
  -- Of all calls only an execution hands a workflow over, and only one that has provisioned.
  cases hasked with
  | nothing _ => cases hran
  | prepared _ | cleanedUp _ | stopped _ _ => cases List.mem_singleton.mp hran
  | ran deadline hprepared hosts ended' =>
    rcases List.mem_cons.mp hran with hprovision | hran
    · cases hprovision
    · cases List.mem_singleton.mp hran
      exact ⟨hosts, rfl, hcarries.handedOver hprepared hosts⟩

/-- A run with the configuration in an empty file, after it was prepared. -/
def preparedMicroRun : State :=
  let s := defaultRun microIdentifier "micro.toml"
  { s with dirPath := some s.directory, prepared := true }

/-- A run with the configuration in an empty file may be created. -/
theorem create_noted_ends : ∃ history,
    (create microIdentifier "micro.toml").Ends (noted anything) ((), [])
      (.ok (defaultRun microIdentifier "micro.toml")) ((), history) := by
  refine ⟨?history, ?ends⟩
  case ends =>
    refine ends_anything (Except.ok "" : Except Machine.Fault String) ?_
    refine ends_anything Uuid.nil ?_
    refine ends_anything (.ok 0) ?_
    refine ends_anything () ?_
    refine ends_anything () ?_
    refine ends_anything (default : Timestamp) ?_
    refine ends_anything (.ok ()) ?_
    refine ends_anything () ?_
    exact .done _ _

/-- Then it may be prepared. -/
theorem prepare_noted_ends (history : List (Flow.Exchange Effects)) : ∃ later,
    ((defaultRun microIdentifier "micro.toml").call .prepare).Ends (noted anything) ((), history)
      (.ok (), preparedMicroRun) ((), later) := by
  refine ⟨?later, ?ends⟩
  case ends =>
    refine ends_anything (.ok ()) ?_
    refine ends_anything (.ok ()) ?_
    exact .done _ _

/-- Then it may be executed, with one host for its workflow. -/
theorem execute_noted_ends (history : List (Flow.Exchange Effects)) : ∃ s' later,
    (preparedMicroRun.call (.execute defaultDeadline)).Ends (noted anything) ((), history)
      (.ok (), s') ((), later) ∧
    calls later = calls history ++ [⟨.provision, .returned (Except.ok ["10.0.0.1"])⟩,
      ⟨.run (preparedMicroRun.withVariables ["10.0.0.1"]).workflow, .returned (Except.ok ())⟩] := by
  refine ⟨?after, ?later, ?ends, ?calls⟩
  case ends =>
    refine ends_anything (default : Timestamp) ?_
    refine ends_anything (.ok ()) ?_
    refine ends_anything (default : Instant) ?_
    refine ends_anything (.returned (Except.ok ["10.0.0.1"])) ?_
    refine ends_anything (.returned (Except.ok ())) ?_
    refine ends_anything (default : Timestamp) ?_
    refine ends_anything (.ok ()) ?_
    exact .done _ _
  case calls =>
    simp only [calls, List.filterMap_append, List.append_assoc]
    rfl

/-- A run may be executed, and then its workflow gets the source of the run. -/
theorem workflow_handed_over_micro : ∃ (s₀ s s' : State) (t₀ t t' : Unit × List (Flow.Exchange Effects)),
    Created (noted anything) ((), []) microIdentifier s₀ t₀ ∧
      s₀.config.workflow.stdoutPath = none ∧ s₀.config.workflow.stderrPath = none ∧
      CallLog (noted anything) s₀ t₀ ([] ++ [(.prepare, .ok ())]) s t ∧
      (s.call (.execute defaultDeadline)).Ends (noted anything) t (.ok (), s') t' ∧
      ∃ w ended, ⟨.run w, ended⟩ ∈ calls t'.2 ∧
        w.extraVars.find? "benchrun_source" = some (.str "engine") ∧ w.stdoutPath = none := by
  obtain ⟨first, hcreate⟩ := create_noted_ends
  obtain ⟨second, hprepare⟩ := prepare_noted_ends first
  obtain ⟨s', last, hexecute, hcalls⟩ := execute_noted_ends second
  have hcreated := Created.fromFile hcreate
  have hlog := CallLog.nil.concat hprepare
  obtain ⟨-, -, -, cs, hcs, hhanded⟩ := workflow_handed_over hcreated rfl rfl hlog hexecute
  obtain rfl := List.append_cancel_left (hcalls.symm.trans hcs)
  have hran : (⟨.run (preparedMicroRun.withVariables ["10.0.0.1"]).workflow,
      .returned (Except.ok ())⟩ : Called) ∈ calls last := by
    rw [hcalls]
    simp
  obtain ⟨hosts, -, hw⟩ := hhanded _ _ (List.mem_cons_of_mem _ (List.mem_singleton_self _))
  exact ⟨_, _, s', _, _, _, hcreated, rfl, rfl, hlog, hexecute, _, _, hran, hw.vars _,
    (hw.unopened (by simp)).1⟩

end BenchQueue.Run
