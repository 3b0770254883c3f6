import BenchQueue.Infra.Local
import BenchQueue.Proofs.Run.CallLog
import BenchQueue.Proofs.Run.Release
import Mathlib.Logic.Function.Basic

/-!
# A prepared run on the own machine

A run and its provider each remember whether they are prepared. The provider forgets it when it cleans up
and the run does not, so that a run which was cleaned up is not prepared again: from then on its provider
is not prepared and refuses to provision anything.
-/

namespace BenchQueue.Run

open BenchQueue.Flow (ensures_done ensures_ask ends_bind_iff)
open BenchQueue.Infra (Call Ended)
open BenchQueue.Infra.Local (Provider)

/-- Surroundings in which every provider is one for the own machine. A supervised call that breaks down or is
given up leaves the provider as it is; everything else is answered in any way. -/
inductive OwnMachine : (effect : Effect) → (Nat → Provider) → effect.Answer → (Nat → Provider) → Prop
  | create (config : Infra.Config) (handle : Nat) (providers : Nat → Provider) :
      OwnMachine (.createProvider config) providers (Except.ok handle)
        (Function.update providers handle {})
  | refuse (config : Infra.Config) (e : Infra.Error) (providers : Nat → Provider) :
      OwnMachine (.createProvider config) providers (Except.error e) providers
  | call {handle : Nat} {call : Call} {providers : Nat → Provider} {answer : call.Answer}
      {provider : Provider}
      (h : (Infra.Local.answer (providers handle) call).Ends anything () (answer, provider) ()) :
      OwnMachine (.provider handle call) providers answer (Function.update providers handle provider)
  | supervise {handle : Nat} {call : Call} {limit : Option Instant} {providers : Nat → Provider}
      {answer : call.Answer} {provider : Provider}
      (h : (Infra.Local.answer (providers handle) call).Ends anything () (answer, provider) ()) :
      OwnMachine (.supervised handle call limit) providers (Ended.returned answer)
        (Function.update providers handle provider)
  | breakDown (handle : Nat) (call : Call) (limit : Option Instant) (providers : Nat → Provider) :
      OwnMachine (.supervised handle call limit) providers Ended.panicked providers
  | giveUp (handle : Nat) (call : Call) (limit : Option Instant) (providers : Nat → Provider) :
      OwnMachine (.supervised handle call limit) providers Ended.expired providers
  | other {effect : Effect} (heffect : isContact effect = false) (answer : effect.Answer)
      (providers : Nat → Provider) : OwnMachine effect providers answer providers

variable {α : Type} {s s' : State} {providers providers' : Nat → Provider} {log : List LogEntry}
  {Q : α → (Nat → Provider) → Prop}

/-! ## Requests on the own machine -/

/-- A request that is not about a provider leaves all providers as they are. -/
theorem ensures_apart {effect : Effect} {next : effect.Answer → Task α}
    (heffect : isContact effect = false)
    (h : ∀ answer, (next answer).Ensures OwnMachine providers Q) :
    (Flow.ask effect next : Task α).Ensures OwnMachine providers Q := by
  refine ensures_ask fun answer providers' hanswer => ?_
  cases hanswer with
  | other _ _ _ => exact h answer
  | _ => cases heffect

/-- What holds after each answer that the own machine may give to a call holds after the call; only
the provider called changes. -/
theorem ensures_call {handle : Nat} {call : Call} {next : call.Answer → Task α}
    (h : ∀ answer provider,
      (Infra.Local.answer (providers handle) call).Ends anything () (answer, provider) () →
      (next answer).Ensures OwnMachine (Function.update providers handle provider) Q) :
    (Flow.ask (.provider handle call) next : Task α).Ensures OwnMachine providers Q := by
  refine ensures_ask fun answer providers' hanswer => ?_
  cases hanswer with
  | call hanswer => exact h answer _ hanswer
  | other heffect _ _ => cases heffect

/-- A supervised call returns, breaks down or is given up. -/
theorem ensures_supervised {handle : Nat} {call : Call} {limit : Option Instant}
    {next : Ended call.Answer → Task α}
    (hpanicked : (next .panicked).Ensures OwnMachine providers Q)
    (hexpired : (next .expired).Ensures OwnMachine providers Q)
    (hreturned : ∀ answer provider,
      (Infra.Local.answer (providers handle) call).Ends anything () (answer, provider) () →
      (next (.returned answer)).Ensures OwnMachine (Function.update providers handle provider) Q) :
    (Flow.ask (.supervised handle call limit) next : Task α).Ensures OwnMachine providers Q := by
  refine ensures_ask fun answer providers' hanswer => ?_
  cases hanswer with
  | supervise hanswer => exact hreturned _ _ hanswer
  | breakDown _ _ _ _ => exact hpanicked
  | giveUp _ _ _ _ => exact hexpired
  | other heffect _ _ => cases heffect

/-! ## The parts of an execution -/

/-- The failure of a provider that is not prepared. -/
def unpreparedProvider : Error := .provisionFailed (.provision "infra is not prepared")

/-- A result fits a provider: it is a success only if the provider is prepared, and the provider refuses to
provision only if it is not. -/
inductive Fits (provider : Provider) : Except Error Unit → Prop
  | done (hprepared : provider.prepared = true) : Fits provider (.ok ())
  | refused (hprepared : provider.prepared = false) : Fits provider (.error unpreparedProvider)
  | failed {e : Error} (h : e ≠ unpreparedProvider) : Fits provider (.error e)

namespace State

/-- Logging leaves the providers as they are. -/
theorem log_own (s : State) (line : String) :
    (s.log line).Ensures OwnMachine providers fun _ providers' => providers' = providers := by
  unfold log
  split
  · exact ensures_apart rfl fun _ => ensures_done rfl
  · exact ensures_done rfl

/-- A change of status leaves the providers and the handle of the run alone, and fails only if the
store does. -/
theorem transition_own (s : State) (status : Status) :
    (s.transition status).Ensures OwnMachine providers fun r providers' =>
      providers' = providers ∧ r.2.provider = s.provider ∧
        (r.1 = .ok () ∨ ∃ e, r.1 = .error (.store e)) := by
  refine ensures_apart rfl fun now => ensures_apart rfl fun answer => ?_
  cases answer with
  | error e => exact ensures_done ⟨rfl, rfl, Or.inr ⟨e, rfl⟩⟩
  | ok _ => exact ensures_done ⟨rfl, rfl, Or.inl rfl⟩

/-- The end of an execution fits the provider if its outcome does. -/
theorem conclude_own {provider : Provider} {result : Except Error Unit} (h : Fits provider result)
    (s : State) :
    (s.conclude result).Ensures OwnMachine providers fun r providers' =>
      providers' = providers ∧ Fits provider r.1 := by
  refine (transition_own s _).bind fun r providers' hrecorded => ?_
  obtain ⟨recorded, s'⟩ := r
  obtain ⟨rfl, -, rfl | ⟨e, rfl⟩⟩ := hrecorded
  · cases result with
    | ok _ => exact ensures_done ⟨rfl, h⟩
    | error e =>
      refine (log_own s' _).bind fun _ providers'' hlogged => ?_
      exact ensures_done ⟨hlogged, h⟩
  · cases result with
    | ok _ => exact ensures_done ⟨rfl, .failed nofun⟩
    | error e => exact ensures_done ⟨rfl, h⟩

/-- A workflow that runs does not change the provider. -/
theorem runWorkflow_own (s : State) (deadline : Duration) (limit : Option Instant)
    (hprepared : (providers s.provider).prepared = true) :
    (s.runWorkflow deadline limit).Ensures OwnMachine providers fun result providers' =>
      providers' = providers ∧ Fits (providers s.provider) result := by
  refine ensures_supervised ?_ ?_ fun answer provider hanswer => ?_
  · exact ensures_done ⟨rfl, .failed nofun⟩
  · exact ensures_done ⟨rfl, .failed nofun⟩
  · obtain ⟨result, u, -, hdone⟩ := ends_bind_iff.mp hanswer
    cases hdone
    rw [Function.update_eq_self]
    cases answer with
    | error e => exact ensures_done ⟨rfl, .failed nofun⟩
    | ok _ => exact ensures_done ⟨rfl, .done hprepared⟩

/-- Provisioning and running leaves the providers as they are, and its result fits the provider of
the run. -/
theorem provisionAndRun_own (s : State) (deadline : Duration) (limit : Option Instant) :
    (s.provisionAndRun deadline limit).Ensures OwnMachine providers fun r providers' =>
      providers' = providers ∧ Fits (providers s.provider) r.1 := by
  refine ensures_supervised ?_ ?_ fun answer provider hanswer => ?_
  · exact ensures_done ⟨rfl, .failed (by simp [unpreparedProvider])⟩
  · exact ensures_done ⟨rfl, .failed nofun⟩
  · obtain ⟨rfl, rfl⟩ : answer = Infra.Local.provision (providers s.provider) ∧
        provider = providers s.provider := by
      cases hanswer
      exact ⟨rfl, rfl⟩
    rw [Function.update_eq_self, Infra.Local.provision]
    cases hprepared : (providers s.provider).prepared with
    | false => exact ensures_done ⟨rfl, .refused hprepared⟩
    | true =>
      rw [if_pos rfl]
      refine (runWorkflow_own (s.withVariables _) deadline limit hprepared).bind
        fun result providers' h => ?_
      exact ensures_done h

/-- An execution leaves all providers as they are, and its result fits the provider of the run. -/
theorem execute_own (s : State) (deadline : Duration) :
    (s.execute deadline).Ensures OwnMachine providers fun r providers' =>
      providers' = providers ∧ Fits (providers s.provider) r.1 := by
  unfold execute
  split
  · exact ensures_done ⟨rfl, .failed nofun⟩
  · refine (transition_own s .started).bind fun r providers' h => ?_
    obtain ⟨started, s'⟩ := r
    obtain ⟨rfl, hsame, rfl | ⟨e, rfl⟩⟩ := h
    · rw [← hsame]
      refine (log_own s' _).bind fun _ providers'' hlogged => ?_
      obtain rfl := hlogged
      refine ensures_apart rfl fun now => ?_
      refine (provisionAndRun_own s' deadline _).bind fun r providers' h => ?_
      obtain ⟨rfl, hfits⟩ := h
      exact conclude_own hfits r.2
    · exact ensures_done ⟨rfl, .failed nofun⟩

/-! ## The other calls -/

/-- Looking for the configuration leaves the providers as they are. -/
theorem resolveConfig_own (s : State) (dir : String) :
    (s.resolveConfig dir).Ensures OwnMachine providers fun _ providers' => providers' = providers := by
  unfold resolveConfig
  split
  · exact ensures_done rfl
  · split
    · exact ensures_done rfl
    · refine ensures_apart rfl fun answer => ?_
      cases answer <;> exact ensures_done rfl

/-- A provider that prepares with success is prepared. -/
theorem prepared_of_prepare {p p' : Provider}
    (h : (Infra.Local.answer p .prepare).Ends anything () (Except.ok (), p') ()) :
    p'.prepared = true := by
  obtain ⟨config, execUuid, tags, prepared⟩ := p
  cases execUuid <;> cases h
  rfl

/-- A run that is not prepared prepares its provider when it is prepared with success. -/
theorem prepare_own (s : State) :
    s.prepare.Ensures OwnMachine providers fun r providers' =>
      (s.prepared = true → providers' = providers) ∧
        (s.prepared = false → r.1 = .ok () → (providers' s.provider).prepared = true) := by
  unfold prepare
  split
  · exact ensures_done ⟨fun _ => rfl, fun h => absurd h (by simpa using ‹s.prepared = true›)⟩
  · rename_i hprepared
    refine Flow.Ensures.mono (P := fun r providers' =>
      r.1 = .ok () → (providers' s.provider).prepared = true) ?_
      fun r providers' h => ⟨fun h' => absurd h' hprepared, fun _ => h⟩
    refine ensures_apart rfl fun answer => ?_
    cases answer with
    | error fault => exact ensures_done fun h => nomatch h
    | ok _ =>
      refine ensures_call fun answer provider hanswer => ?_
      cases answer with
      | error e => exact ensures_done fun h => nomatch h
      | ok _ =>
        have hprovider : provider.prepared = true := prepared_of_prepare hanswer
        refine (resolveConfig_own _ _).bind fun resolved providers' hsame => ?_
        obtain rfl := hsame
        cases resolved with
        | error e => exact ensures_done nofun
        | ok s' => exact ensures_done fun _ => by rw [Function.update_self, hprovider]

/-- Opening the logs leaves the providers as they are. -/
theorem openOutputs_own (s : State) :
    s.openOutputs.Ensures OwnMachine providers fun _ providers' => providers' = providers := by
  unfold openOutputs
  split
  · refine ensures_apart rfl fun answer => ?_
    cases answer with
    | error fault => exact ensures_done rfl
    | ok _ =>
      refine ensures_apart rfl fun answer => ?_
      cases answer <;> exact ensures_done rfl
  · exact ensures_done rfl

/-- The provider is not prepared after a cleanup. -/
theorem cleanUp_own (s : State) :
    s.cleanUp.Ensures OwnMachine providers fun _ providers' =>
      (providers' s.provider).prepared = false := by
  refine ensures_call fun answer provider hanswer => ?_
  cases hanswer
  exact ensures_done (by rw [Function.update_self])

/-- What a call with a result may do to the providers. -/
structure Affects (s : State) (c : OwnerCall) (result : Except Error Unit)
    (providers providers' : Nat → Provider) : Prop where
  cleaned : c = .cleanUp → (providers' s.provider).prepared = false
  kept : c ≠ .cleanUp → s.prepared = true → providers' = providers
  prepared : s.prepared = false → (c, result) = (.prepare, .ok ()) →
    (providers' s.provider).prepared = true

/-- A call does to the providers what its result says. -/
theorem call_own (s : State) (c : OwnerCall) :
    (s.call c).Ensures OwnMachine providers fun r providers' => s.Affects c r.1 providers providers' := by
  cases c with
  | prepare =>
    refine (prepare_own s).mono fun r providers' h => ?_
    exact ⟨nofun, fun _ => h.1, fun hnew hok => h.2 hnew (congrArg Prod.snd hok)⟩
  | openOutputs =>
    exact (openOutputs_own s).mono fun r providers' h => ⟨nofun, fun _ _ => h, nofun⟩
  | execute deadline =>
    exact (execute_own s deadline).mono fun r providers' h => ⟨nofun, fun _ _ => h.1, nofun⟩
  | cleanUp =>
    refine (cleanUp_own s).bind fun result providers' h => ensures_done ?_
    exact ⟨fun _ => h, fun hother => absurd rfl hother, nofun⟩
  | conclude => exact ensures_done ⟨nofun, fun _ _ => rfl, nofun⟩

/-- No call changes the handle of a run. -/
theorem Step.provider_eq {c : OwnerCall} {result : Except Error Unit} (h : s.Step c result s') :
    s'.provider = s.provider := by
  cases h with
  | executed _ _ h | provided _ _ _ _ h =>
    obtain ⟨_, _, _, rfl⟩ := h
    rfl
  | _ => rfl

end State

/-! ## All calls -/

/-- There was a cleanup after a preparation with success. -/
def CleanedUpSince (log : List LogEntry) : Prop :=
  ∃ before after result, log = before ++ (.cleanUp, result) :: after ∧ (.prepare, .ok ()) ∈ before

/-- A further entry makes a difference only if it is a cleanup after a preparation with success. -/
theorem cleanedUpSince_concat {entry : LogEntry} :
    CleanedUpSince (log ++ [entry]) ↔
      CleanedUpSince log ∨ entry.1 = .cleanUp ∧ (.prepare, .ok ()) ∈ log := by
  constructor
  · rintro ⟨before, after, result, hlog, hbefore⟩
    rcases List.eq_nil_or_concat after with rfl | ⟨after, last, rfl⟩
    · obtain ⟨rfl, hentry⟩ := List.append_inj' hlog rfl
      obtain rfl := List.singleton_inj.mp hentry
      exact Or.inr ⟨rfl, hbefore⟩
    · have hlog' : log ++ [entry] = (before ++ (.cleanUp, result) :: after) ++ [last] := by
        rw [hlog, List.concat_eq_append, List.append_assoc, List.cons_append]
      exact Or.inl ⟨before, after, result, (List.append_inj' hlog' rfl).1, hbefore⟩
  · rintro (⟨before, after, result, rfl, hbefore⟩ | ⟨hentry, hlog⟩)
    · exact ⟨before, after ++ [entry], result, by rw [List.append_assoc, List.cons_append], hbefore⟩
    · exact ⟨log, [], entry.2, by rw [← hentry], hlog⟩

/-- Once a run was prepared with success, its provider is prepared unless there was a cleanup since. -/
theorem CallLog.provider_prepared_iff (hnew : s.prepared = false)
    (h : CallLog OwnMachine s providers log s' providers') (hlog : (.prepare, .ok ()) ∈ log) :
    (providers' s'.provider).prepared = true ↔ ¬ CleanedUpSince log := by
  induction h with
  | nil => exact absurd hlog List.not_mem_nil
  | concat hbefore hcall ih =>
    rename_i log s' s'' providers' providers'' c result
    have haffects := s'.call_own c _ _ hcall
    have hprepared := hbefore.prepared_iff hnew
    rw [(State.step_of_ends hcall).provider_eq, cleanedUpSince_concat]
    by_cases hearlier : (.prepare, .ok ()) ∈ log
    · by_cases hclean : c = .cleanUp
      · simp [haffects.cleaned hclean, hclean, hearlier]
      · rw [haffects.kept hclean (hprepared.mpr hearlier), ih hearlier]
        simp [hclean]
    · have hunprepared : s'.prepared = false := by simpa [hearlier] using hprepared
      have hentry : (c, result) = (.prepare, .ok ()) := by
        simpa [hearlier, eq_comm] using hlog
      have hnever : ¬ CleanedUpSince log := fun ⟨before, _, _, heq, hmem⟩ =>
        hearlier (heq ▸ List.mem_append_left _ hmem)
      simp [haffects.prepared hunprepared hentry, hnever, hearlier]

/-! ## Executions that are refused -/

namespace State

/-- Logging may end, with the providers as they were. -/
theorem log_ends (s : State) (line : String) (providers : Nat → Provider) :
    (s.log line).Ends OwnMachine providers () providers := by
  unfold log
  split
  · exact .ask (.other rfl () _) (.done _ _)
  · exact .done _ _

/-- A change of status may be accepted, with the providers as they were. -/
theorem transition_ends (s : State) (status : Status) (providers : Nat → Provider) :
    (s.transition status).Ends OwnMachine providers (.ok (), s.withStatus status default) providers :=
  .ask (.other rfl (default : Timestamp) _)
    (.ask (.other rfl (Except.ok () : Except Store.Error Unit) _) (.done _ _))

/-- A provider that is not prepared may refuse to provision. -/
theorem provisionAndRun_may_be_refused (hprovider : (providers s.provider).prepared = false)
    (deadline : Duration) (limit : Option Instant) :
    (s.provisionAndRun deadline limit).Ends OwnMachine providers (.error unpreparedProvider, s)
      providers := by
  have hrefused : (Infra.Local.answer (providers s.provider) .provision).Ends anything ()
      (Except.error (.provision "infra is not prepared"), providers s.provider) () := by
    show (Flow.done (Infra.Local.provision (providers s.provider), providers s.provider)).Ends _ _ _ _
    rw [Infra.Local.provision, hprovider]
    exact .done _ _
  have hasked : OwnMachine (.supervised s.provider .provision limit) providers
      (Ended.returned (Except.error (.provision "infra is not prepared"))) _ := .supervise hrefused
  rw [Function.update_eq_self] at hasked
  exact .ask hasked (.done _ _)

/-- A run that was prepared is refused by its provider if the provider is prepared no more. -/
theorem execute_may_be_refused (hprepared : s.prepared = true)
    (hprovider : (providers s.provider).prepared = false) (deadline : Duration) :
    ∃ s', (s.execute deadline).Ends OwnMachine providers (.error unpreparedProvider, s') providers := by
  refine ⟨(s.withStatus .started default).withStatus .failed default, ?_⟩
  unfold execute
  rw [hprepared]
  refine ends_bind_iff.mpr ⟨_, _, transition_ends s .started providers, ?_⟩
  refine ends_bind_iff.mpr ⟨_, _, log_ends _ _ providers, ?_⟩
  refine .ask (.other rfl (default : Instant) _) ?_
  refine ends_bind_iff.mpr ⟨_, _, .done _ _, ?_⟩
  refine ends_bind_iff.mpr ⟨_, _,
    provisionAndRun_may_be_refused (s := s.withStatus .started default) hprovider deadline _, ?_⟩
  refine ends_bind_iff.mpr ⟨_, _, transition_ends _ _ providers, ?_⟩
  exact ends_bind_iff.mpr ⟨_, _, log_ends _ _ providers, .done _ _⟩

end State

/-! ## The provider of a prepared run -/

/-- A run that was prepared with success just now has a prepared provider exactly if it was not cleaned up
since it was prepared with success for the first time. If it was, its provider may refuse to provision in an
execution, and the execution never succeeds; otherwise the provider does not refuse. -/
theorem prepared_provider_iff {providers₀ : Nat → Provider} {identifier : Identifier}
    (hcreated : Created OwnMachine providers₀ identifier s providers)
    (hlog : CallLog OwnMachine s providers (log ++ [(.prepare, .ok ())]) s' providers')
    (deadline : Duration) :
    ((providers' s'.provider).prepared = true ↔ ¬ CleanedUpSince log) ∧
      ((∃ s'' providers'', (s'.execute deadline).Ends OwnMachine providers'
        (.error unpreparedProvider, s'') providers'') ↔ CleanedUpSince log) ∧
      (CleanedUpSince log → ∀ result s'' providers'',
        (s'.execute deadline).Ends OwnMachine providers' (result, s'') providers'' →
          result ≠ .ok ()) := by
  have hnew := hcreated.prepared_eq_false
  have hlast : (OwnerCall.prepare, Except.ok ()) ∈ log ++ [(.prepare, .ok ())] :=
    List.mem_append_right _ (List.mem_singleton_self _)
  have hprepared : s'.prepared = true := (hlog.prepared_iff hnew).mpr hlast
  have hprovider : (providers' s'.provider).prepared = true ↔ ¬ CleanedUpSince log := by
    rw [hlog.provider_prepared_iff hnew hlast, cleanedUpSince_concat]
    simp
  refine ⟨hprovider, ⟨?_, fun hcleaned => ?_⟩, fun hcleaned result s'' providers'' hends hok => ?_⟩
  · rintro ⟨s'', providers'', hends⟩
    -- The provider refuses to provision only if it is not prepared.
    generalize hresult : (Except.error unpreparedProvider : Except Error Unit) = result at hends
    cases (State.execute_own s' deadline _ _ hends).2 with
    | done _ => cases hresult
    | refused hrefused => simpa [hrefused] using hprovider
    | failed hother => exact absurd (Except.error.inj hresult).symm hother
  · have hrefused : (providers' s'.provider).prepared = false := by simpa [hcleaned] using hprovider
    obtain ⟨s'', hends⟩ := State.execute_may_be_refused hprepared hrefused deadline
    exact ⟨s'', _, hends⟩
  · subst hok
    cases (State.execute_own s' deadline _ _ hends).2 with
    | done hdone => exact hprovider.mp hdone hcleaned

/-- A run with the configuration in an empty file may be created, with a provider that knows it. -/
theorem create_own_ends : ∃ providers : Nat → Provider,
    (create microIdentifier "micro.toml").Ends OwnMachine (fun _ => {})
      (.ok (defaultRun microIdentifier "micro.toml")) providers ∧
    (providers 0).execUuid = some .nil := by
  refine ⟨?providers, ?ends, ?id⟩
  case ends =>
    refine .ask (.other rfl (Except.ok "" : Except Machine.Fault String) _) ?_
    refine .ask (.other rfl Uuid.nil _) ?_
    refine .ask (.create {} 0 _) ?_
    refine .ask (.call (.done _ _)) ?_
    refine .ask (.call (.done _ _)) ?_
    refine .ask (.other rfl (default : Timestamp) _) ?_
    refine .ask (.other rfl (Except.ok () : Except Store.Error Unit) _) ?_
    refine .ask (.call (.done _ _)) ?_
    exact .done _ _
  case id => rfl

/-- The first preparation of a run may end with success on the own machine. -/
theorem prepare_own_ends {id : Uuid} (hid : (providers 0).execUuid = some id) :
    ∃ s' providers', ((defaultRun microIdentifier "micro.toml").call .prepare).Ends OwnMachine providers
      (.ok (), s') providers' := by
  have hprepared : (Infra.Local.answer (providers 0) .prepare).Ends anything ()
      (Except.ok (), { providers 0 with prepared := true }) () := by
    generalize providers 0 = p at hid
    obtain ⟨config, execUuid, tags, prepared⟩ := p
    obtain rfl : execUuid = some id := hid
    exact .done _ _
  refine ⟨?run, ?providers, ?ends⟩
  case ends =>
    refine .ask (.other rfl (Except.ok () : Except Machine.Fault Unit) _) ?_
    refine .ask (.call hprepared) ?_
    exact .done _ _

/-- Some run on the own machine was created and prepared with success. -/
theorem exists_prepared : ∃ s providers s' providers',
    Created OwnMachine (fun _ => {}) microIdentifier s providers ∧
      CallLog OwnMachine s providers ([] ++ [(.prepare, .ok ())]) s' providers' := by
  obtain ⟨providers, hcreated, hid⟩ := create_own_ends
  obtain ⟨s', providers', hcalled⟩ := prepare_own_ends hid
  exact ⟨_, providers, s', providers', .fromFile hcreated, CallLog.nil.concat hcalled⟩

/-- A run may be cleaned up and prepared again, both with success. -/
theorem CallLog.cleaned_prepared (hnew : s.prepared = false)
    (h : CallLog OwnMachine s providers log s' providers') (hlog : (.prepare, .ok ()) ∈ log) :
    ∃ providers'', CallLog OwnMachine s providers
      (log ++ [(.cleanUp, .ok ())] ++ [(.prepare, .ok ())]) s' providers'' := by
  have hprepared : s'.prepared = true := (h.prepared_iff hnew).mpr hlog
  have hcleaned : (s'.call .cleanUp).Ends OwnMachine providers' (.ok (), s') _ :=
    .ask (.call (.done _ _)) (.done _ _)
  have hagain (providers : Nat → Provider) :
      (s'.call .prepare).Ends OwnMachine providers (.ok (), s') providers := by
    show s'.prepare.Ends _ _ _ _
    rw [State.prepare, hprepared]
    exact .done _ _
  exact ⟨_, (h.concat hcleaned).concat (hagain _)⟩

/-- A run that is prepared for the first time has a prepared provider. -/
theorem prepared_provider_iff_once : ∃ s providers s' providers',
    Created OwnMachine (fun _ => {}) microIdentifier s providers ∧
      CallLog OwnMachine s providers ([] ++ [(.prepare, .ok ())]) s' providers' ∧
      (providers' s'.provider).prepared = true := by
  obtain ⟨s, providers, s', providers', hcreated, hlog⟩ := exists_prepared
  refine ⟨s, providers, s', providers', hcreated, hlog, ?_⟩
  refine (prepared_provider_iff hcreated hlog defaultDeadline).1.mpr ?_
  rintro ⟨before, after, result, hempty, -⟩
  simp at hempty

/-- A preparation with success as the last call does not leave a prepared provider in all cases. -/
theorem prepared_run_refused :
    ¬ ∀ (providers₀ : Nat → Provider) (identifier : Identifier) (s : State)
      (providers : Nat → Provider) (log : List LogEntry) (s' : State) (providers' : Nat → Provider),
      Created OwnMachine providers₀ identifier s providers →
      CallLog OwnMachine s providers (log ++ [(.prepare, .ok ())]) s' providers' →
      (providers' s'.provider).prepared = true ∧
        ∀ deadline s'' providers'', ¬ (s'.execute deadline).Ends OwnMachine providers'
          (.error unpreparedProvider, s'') providers'' := by
  intro hall
  obtain ⟨s, providers, s', providers', hcreated, hlog⟩ := exists_prepared
  have hnew := hcreated.prepared_eq_false
  obtain ⟨providers'', hcleaned⟩ := hlog.cleaned_prepared hnew (List.mem_singleton_self _)
  refine ((hcleaned.provider_prepared_iff hnew (by simp)).mp (hall _ _ _ _ _ _ _ hcreated hcleaned).1) ?_
  exact ⟨[(.prepare, .ok ())], [(.prepare, .ok ())], .ok (), rfl, List.mem_singleton_self _⟩

end BenchQueue.Run
