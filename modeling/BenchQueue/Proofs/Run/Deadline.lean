import BenchQueue.Proofs.Run.Supervision

/-!
# Executions under a deadline

Provisioning and running a workflow are given one deadline together. Whatever they do and whenever,
an execution ends, it records that the run has started and then one terminal status, and its result
says what came first.
-/

namespace BenchQueue.Run

open BenchQueue.Flow (noted achieves_noted)
open BenchQueue.Infra (Ended)

variable {b : Behaviour} {s : State} {deadline : Duration} {limit : Option Instant}
  {now start t : Instant} {history : List (Flow.Exchange Effects)} {result : Except Error Unit}
  {cs : List Called}

/-! ## Steps of an execution -/

/-- The result of an attempt to provision. -/
def provisionResult (deadline : Duration) :
    Ended (Infra.Call.Answer .provision) → Except Error (List String)
  | .expired => .error (.timeout deadline)
  | .panicked => .error (.provisionFailed (.provision "provisioning panicked"))
  | .returned (Except.error e) => .error (.provisionFailed e)
  | .returned (Except.ok hosts) => .ok hosts

/-- The result of an attempt to run a workflow. -/
def runResult {workflow : Infra.Workflow} (deadline : Duration) :
    Ended (Infra.Call.Answer (.run workflow)) → Except Error Unit
  | .expired => .error (.timeout deadline)
  | .panicked => .error (.runFailed "workflow panicked")
  | .returned (Except.error e) => .error (.runFailed e.message)
  | .returned (Except.ok ()) => .ok ()

/-- The work of a provider that begins at an instant, up to a limit: it stops when the machines
cannot be provisioned, and runs the workflow otherwise. -/
inductive Worked (b : Behaviour) (s : State) (deadline : Duration) (limit : Option Instant)
    (start : Instant) : Except Error Unit → List Called → Prop
  | stopped {ended : Ended (Infra.Call.Answer .provision)} {t : Instant} {e : Error}
      (h : Supervised (b .provision) limit start ended t)
      (hresult : provisionResult deadline ended = .error e) :
      Worked b s deadline limit start (.error e) [⟨.provision, ended⟩]
  | ran {hosts : List String} {t u : Instant}
      {ended : Ended (Infra.Call.Answer (.run (s.withVariables hosts).workflow))}
      (hprovision : Supervised (b .provision) limit start (.returned (Except.ok hosts)) t)
      (hrun : Supervised (b (.run (s.withVariables hosts).workflow)) limit t ended u) :
      Worked b s deadline limit start (runResult deadline ended)
        [⟨.provision, .returned (Except.ok hosts)⟩, ⟨.run (s.withVariables hosts).workflow, ended⟩]

namespace State

/-- Writing into a log takes no time and makes no call. -/
theorem log_achieves (s : State) (line : String) :
    (s.log line).Achieves (noted (Timed b)) (now, history) fun _ after =>
      Passed (now, history) [] [] after := by
  unfold log
  split
  · exact achieves_plain trivial () fun _ _ hpassed => hpassed
  · exact passed_refl _

/-- The store accepts the change of a status. -/
theorem transition_achieves (s : State) (status : Status) :
    (s.transition status).Achieves (noted (Timed b)) (now, history) fun r after =>
      (∃ at_, r = (.ok (), s.withStatus status at_)) ∧
        Passed (now, history) [(s.id, status)] [] after := by
  refine achieves_plain trivial (default : Timestamp) fun at_ later hpassed => ?_
  refine achieves_noted ⟨_, later, .write (Nat.le_refl _) _ _ _⟩ fun answer last hanswer => ?_
  cases hanswer with
  | plain hplain _ _ => exact hplain.elim
  | write hle _ _ _ =>
    exact ⟨⟨at_, rfl⟩, hpassed.trans (passed_concat hle _
      ⟨.store (.updateStatus s.id status at_), Except.ok ()⟩)⟩

/-- The work of an execution ends, by its result as far as the limit has let it come. -/
theorem provisionAndRun_achieves (s : State) (deadline : Duration) (limit : Option Instant) :
    (s.provisionAndRun deadline limit).Achieves (noted (Timed b)) (now, history) fun r after =>
      r.2.id = s.id ∧ ∃ cs, Worked b s deadline limit now r.1 cs ∧
        Passed (now, history) [] cs after := by
  refine achieves_supervised fun ended t hprovision hpassed => ?_
  match ended with
  | .expired => exact ⟨rfl, _, .stopped hprovision rfl, hpassed⟩
  | .panicked => exact ⟨rfl, _, .stopped hprovision rfl, hpassed⟩
  | .returned (Except.error e) => exact ⟨rfl, _, .stopped hprovision rfl, hpassed⟩
  | .returned (Except.ok hosts) =>
    refine achieves_supervised fun ended u hrun hpassed' => ?_
    have hboth := hpassed.trans hpassed'
    match ended with
    | .expired => exact ⟨rfl, _, .ran hprovision hrun, hboth⟩
    | .panicked => exact ⟨rfl, _, .ran hprovision hrun, hboth⟩
    | .returned (Except.error e) => exact ⟨rfl, _, .ran hprovision hrun, hboth⟩
    | .returned (Except.ok ()) => exact ⟨rfl, _, .ran hprovision hrun, hboth⟩

/-- The end of an execution is recorded and its result stays what it is. -/
theorem conclude_achieves (s : State) (result : Except Error Unit) :
    (s.conclude result).Achieves (noted (Timed b)) (now, history) fun r after =>
      r.1 = result ∧ r.2.status = terminalStatus result ∧
        Passed (now, history) [(s.id, terminalStatus result)] [] after := by
  refine (transition_achieves s (terminalStatus result)).bind fun r between h => ?_
  obtain ⟨⟨at_, rfl⟩, hpassed⟩ := h
  cases result with
  | ok _ => exact ⟨rfl, rfl, hpassed⟩
  | error e =>
    refine (log_achieves _ _).bind fun _ after hlogged => ?_
    exact ⟨rfl, rfl, hpassed.trans hlogged⟩

end State

/-! ## Executions -/

/-- The status of a run is nothing that its provider learns. -/
theorem Worked.of_withStatus {status : Status} {at_ : Timestamp}
    (h : Worked b (s.withStatus status at_) deadline limit start result cs) :
    Worked b s deadline limit start result cs := by
  cases h with
  | stopped h hresult => exact .stopped h hresult
  | ran hprovision hrun => exact .ran hprovision hrun

/-- A prepared run is recorded as started, its provider works up to the deadline, and then the end
is recorded that the result shows. -/
theorem State.execute_achieves (hprepared : s.prepared = true) (deadline : Duration) :
    (s.execute deadline).Achieves (noted (Timed b)) (now, history) fun r after =>
      r.2.status = terminalStatus r.1 ∧ ∃ start cs, ⟨.instant, start⟩ ∈ after.2 ∧
        Worked b s deadline (start.after? deadline) start r.1 cs ∧
        Passed (now, history) [(s.id, .started), (s.id, terminalStatus r.1)] cs after := by
  unfold execute
  rw [hprepared]
  refine (transition_achieves s .started).bind fun r between h => ?_
  obtain ⟨⟨at_, rfl⟩, hstarted⟩ := h
  refine (log_achieves _ _).bind fun _ between hlogged => ?_
  obtain ⟨start, asked⟩ := between
  refine achieves_noted ⟨start, start, .instant start⟩ fun answer _ h => ?_
  cases h with
  | plain hplain _ _ => exact hplain.elim
  | instant _ =>
    have hbegun := (hstarted.trans hlogged).trans
      (passed_concat (Nat.le_refl start.nanos) asked ⟨.instant, start⟩)
    refine (provisionAndRun_achieves _ deadline _).bind fun r between h => ?_
    obtain ⟨hid, cs, hworked, hpassed⟩ := h
    refine (conclude_achieves r.2 r.1).mono fun r' after h => ?_
    obtain ⟨hresult, hstatus, hrecorded⟩ := h
    have hended := hpassed.trans hrecorded
    rw [hid, List.append_nil] at hended
    rw [hresult]
    have hasked : ⟨.instant, start⟩ ∈ after.2 := hended.kept.subset List.mem_concat_self
    exact ⟨hstatus, start, cs, hasked, hworked.of_withStatus, hbegun.trans hended⟩

/-- What the result says when nothing happens at the very instant of the deadline. -/
structure Timely (b : Behaviour) (s : State) (deadline : Duration) (start : Instant)
    (result : Except Error Unit) : Prop where
  finished : ∀ hosts t u,
    (b .provision).EndsBefore start (start.nanos + deadline.nanos)
      (.returned (Except.ok hosts)) t →
    (b (.run (s.withVariables hosts).workflow)).EndsBefore t (start.nanos + deadline.nanos)
      (.returned (Except.ok ())) u → result = .ok ()
  provisionFailed : ∀ e t,
    (b .provision).EndsBefore start (start.nanos + deadline.nanos)
      (.returned (Except.error e)) t → result = .error (.provisionFailed e)
  provisionPanicked : ∀ t,
    (b .provision).EndsBefore start (start.nanos + deadline.nanos) .panicked t →
      result = .error (.provisionFailed (.provision "provisioning panicked"))
  provisionLate : (b .provision).OpenAt start (start.nanos + deadline.nanos) →
    result = .error (.timeout deadline)
  runFailed : ∀ hosts t e u,
    (b .provision).EndsBefore start (start.nanos + deadline.nanos)
      (.returned (Except.ok hosts)) t →
    (b (.run (s.withVariables hosts).workflow)).EndsBefore t (start.nanos + deadline.nanos)
      (.returned (Except.error e)) u → result = .error (.runFailed e.message)
  runPanicked : ∀ hosts t u,
    (b .provision).EndsBefore start (start.nanos + deadline.nanos)
      (.returned (Except.ok hosts)) t →
    (b (.run (s.withVariables hosts).workflow)).EndsBefore t (start.nanos + deadline.nanos)
      .panicked u → result = .error (.runFailed "workflow panicked")
  runLate : ∀ hosts t,
    (b .provision).EndsBefore start (start.nanos + deadline.nanos)
      (.returned (Except.ok hosts)) t →
    (b (.run (s.withVariables hosts).workflow)).OpenAt t (start.nanos + deadline.nanos) →
      result = .error (.timeout deadline)

/-- If provisioning ends before the deadline, its end decides how the work goes on. -/
theorem Worked.of_provisioned {ended : Ended (Infra.Call.Answer .provision)}
    (h : Worked b s deadline (start.after? deadline) start result cs)
    (hc : (b .provision).EndsBefore start (start.nanos + deadline.nanos) ended t) :
    (∃ e, provisionResult deadline ended = .error e ∧ result = .error e) ∨
      ∃ hosts ended' u, ended = .returned (Except.ok hosts) ∧
        Supervised (b (.run (s.withVariables hosts).workflow)) (start.after? deadline) t ended' u ∧
        result = runResult deadline ended' := by
  cases h with
  | stopped h hresult =>
    obtain ⟨rfl, -⟩ := h.of_endsBefore hc
    exact Or.inl ⟨_, hresult, rfl⟩
  | ran hprovision hrun =>
    obtain ⟨rfl, rfl⟩ := hprovision.of_endsBefore hc
    exact Or.inr ⟨_, _, _, rfl, hrun, rfl⟩

/-- If the machines are there before the deadline, the workflow runs on them. -/
theorem Worked.of_hosts {hosts : List String}
    (h : Worked b s deadline (start.after? deadline) start result cs)
    (hc : (b .provision).EndsBefore start (start.nanos + deadline.nanos)
      (.returned (Except.ok hosts)) t) :
    ∃ ended u, Supervised (b (.run (s.withVariables hosts).workflow)) (start.after? deadline) t
      ended u ∧ result = runResult deadline ended := by
  rcases h.of_provisioned hc with ⟨e, he, -⟩ | ⟨hosts', ended, u, hhosts, hrun, hresult⟩
  · cases he
  · cases hhosts
    exact ⟨ended, u, hrun, hresult⟩

/-- The result of work under a limit is the timely one, whatever the provider does after the limit.
-/
theorem Worked.timely (h : Worked b s deadline (start.after? deadline) start result cs) :
    Timely b s deadline start result := by
  constructor
  case finished =>
    intro hosts t u hprovision hrun
    obtain ⟨ended, u', hsupervised, rfl⟩ := h.of_hosts hprovision
    obtain ⟨rfl, -⟩ := hsupervised.of_endsBefore hrun
    rfl
  case provisionFailed =>
    intro e t hprovision
    rcases h.of_provisioned hprovision with ⟨e', he, rfl⟩ | ⟨hosts, ended, u, hhosts, -⟩
    · cases he
      rfl
    · cases hhosts
  case provisionPanicked =>
    intro t hprovision
    rcases h.of_provisioned hprovision with ⟨e', he, rfl⟩ | ⟨hosts, ended, u, hhosts, -⟩
    · cases he
      rfl
    · cases hhosts
  case provisionLate =>
    intro hopen
    -- A provider that prepares no hosts by the deadline is not asked to run.
    cases h with
    | stopped h hresult =>
      obtain rfl := h.of_openAt hopen
      exact congrArg Except.error (Except.error.inj hresult).symm
    | ran hprovision _ => cases hprovision.of_openAt hopen
  case runFailed =>
    intro hosts t e u hprovision hrun
    obtain ⟨ended, u', hsupervised, rfl⟩ := h.of_hosts hprovision
    obtain ⟨rfl, -⟩ := hsupervised.of_endsBefore hrun
    rfl
  case runPanicked =>
    intro hosts t u hprovision hrun
    obtain ⟨ended, u', hsupervised, rfl⟩ := h.of_hosts hprovision
    obtain ⟨rfl, -⟩ := hsupervised.of_endsBefore hrun
    rfl
  case runLate =>
    intro hosts t hprovision hopen
    obtain ⟨ended, u, hsupervised, rfl⟩ := h.of_hosts hprovision
    obtain rfl := hsupervised.of_openAt hopen
    rfl

/-- The workflow is run at most once, and only on machines that were provisioned. -/
theorem Worked.run_after_provision {workflow : Infra.Workflow}
    {ended : Ended (Infra.Call.Answer (.run workflow))}
    (h : Worked b s deadline limit start result cs) (hmem : ⟨.run workflow, ended⟩ ∈ cs) :
    ∃ hosts, cs = [⟨.provision, .returned (Except.ok hosts)⟩, ⟨.run workflow, ended⟩] := by
  cases h with
  | stopped h hresult => simp at hmem
  | ran hprovision hrun =>
    rcases List.mem_cons.mp hmem with heq | hmem
    · cases heq
    · have heq := List.mem_singleton.mp hmem
      cases heq
      exact ⟨_, rfl⟩

/-- Whatever a provider does and whenever, the execution of a prepared run ends. It changes the
status of the run twice: to started, and then to finished if the result is a success and to failed
otherwise. The workflow is run only after the machines were provisioned, and the result says which
step failed first, or that the deadline came before. -/
theorem execute_closes (hprepared : s.prepared = true) (b : Behaviour) (deadline : Duration)
    (now : Instant) :
    (s.execute deadline).Achieves (noted (Timed b)) (now, []) fun r after =>
      (∃ terminal, writes after.2 = [(s.id, .started), (s.id, terminal)] ∧
        r.2.status = terminal ∧ (terminal = .finished ↔ r.1 = .ok ()) ∧
        (terminal = .failed ↔ ∃ e, r.1 = .error e)) ∧
      (∀ workflow ended, ⟨.run workflow, ended⟩ ∈ calls after.2 →
        ∃ hosts, calls after.2 =
          [⟨.provision, .returned (Except.ok hosts)⟩, ⟨.run workflow, ended⟩]) ∧
      ∃ start, ⟨.instant, start⟩ ∈ after.2 ∧ Timely b s deadline start r.1 := by
  refine (State.execute_achieves hprepared deadline).mono fun r after h => ?_
  obtain ⟨hstatus, start, cs, hasked, hworked, hpassed⟩ := h
  have hcalls : calls after.2 = cs := hpassed.calls
  refine ⟨⟨_, hpassed.writes, hstatus, ?_, ?_⟩, ?_, start, hasked, hworked.timely⟩
  · cases r.1 <;> simp [State.terminalStatus]
  · cases r.1 <;> simp [State.terminalStatus]
  · intro workflow ended hmem
    rw [hcalls] at hmem ⊢
    exact hworked.run_after_provision hmem

/-- A provider that never answers costs the deadline, and the run has failed. -/
theorem execute_closes_hanging :
    ({ (default : State) with prepared := true }.execute (.ofSeconds 60)).Achieves
      (noted (Timed fun _ => .never)) (Instant.start, []) fun r after =>
        r.1 = Except.error (Error.timeout (.ofSeconds 60)) ∧
          writes after.2 = [(Uuid.nil, Status.started), (Uuid.nil, Status.failed)] := by
  refine (execute_closes rfl _ _ _).mono fun r after h => ?_
  obtain ⟨⟨terminal, hwrites, -, -, hfailed⟩, -, start, -, htimely⟩ := h
  have hresult := htimely.provisionLate fun t ended hend => nomatch hend
  rw [hwrites, hfailed.mpr ⟨_, hresult⟩]
  exact ⟨hresult, rfl⟩

end BenchQueue.Run
