import BenchQueue.Proofs.Worker.TickRuns

/-!
# Ticks that see the same commit

A benchmark at the commit that all ticks see is accepted again only after its element has left the
queue. As long as no attempt at it has succeeded, each of its elements has left the queue because its
attempts were used up; after that the next tick does submit it again. Once an attempt has succeeded it
is not accepted any more, unless a tick has already looked it up.
-/

namespace BenchQueue.Worker

open BenchQueue.Scheduling
open BenchQueue.Store (Memory)

variable {c : Cron} {head : String} {compares : Bool} {deadline : Duration}
  {events seen more : List Event} {event : Event} {s t : Ticking} {identifier : Run.Identifier}
  {submissions : Multiset (Task (Except Store.Error Submission))}

namespace Ticking.Mirrors

/-! ## What the scheduler has done -/

/-- A run with ticks accepts an identifier as often as the run that it mirrors. -/
theorem acceptances_eq (h : Mirrors c head compares deadline events s seen submissions) :
    acceptances identifier events = acceptances identifier seen :=
  congrArg (List.countP _) (filterMap_eq_of_acts (fun _ => accepted?_of_not_isActed) h.acts).symm

/-- A run with ticks removes an identifier as often as the run that it mirrors. -/
theorem removals_eq (h : Mirrors c head compares deadline events s seen submissions) :
    removals identifier events = removals identifier seen :=
  congrArg (List.countP _) (filterMap_eq_of_acts (fun _ => released?_of_not_isActed) h.acts).symm

/-- The attempts at an identifier end as in the run that is mirrored. -/
theorem endings_eq (h : Mirrors c head compares deadline events s seen submissions) :
    endings identifier events = endings identifier seen :=
  (filterMap_eq_of_acts (fun _ => ended?_of_not_isActed) h.acts).symm

/-- The accepted requests are those of the run that is mirrored. -/
theorem accepted_eq (h : Mirrors c head compares deadline events s seen submissions) :
    accepted events = accepted seen :=
  (filterMap_eq_of_acts (fun _ => accepted?_of_not_isActed) h.acts).symm

/-- An attempt that has succeeded beside ticks has succeeded beside submissions. -/
theorem succeeded (h : Mirrors c head compares deadline events s seen submissions)
    (hsucceeded : Succeeded events s.deployment identifier) :
    FinishedFor identifier s.deployment.memory := by
  refine h.reaches.finishedFor (d := withSubmissions s.deployment submissions) ?_
  obtain ⟨a, rfl, hended | hreturned⟩ := hsucceeded
  · refine ⟨a, rfl, Or.inl ?_⟩
    have hacted : .attemptEnded a (.returned (.ok ())) ∈ events.filter Event.isActed :=
      List.mem_filter.mpr ⟨hended, rfl⟩
    rw [← h.acts] at hacted
    exact (List.mem_filter.mp hacted).1
  · exact ⟨a, rfl, Or.inr hreturned⟩

end Ticking.Mirrors

/-! ## After a success -/

/-- Work that is finished, and that no tick queues next. -/
structure Ticking.Settled (identifier : Run.Identifier) (s : Ticking) : Prop where
  finished : FinishedFor identifier s.deployment.memory
  unqueued : ∀ r ∈ s.ticks.filterMap queueing?, r.identifier ≠ identifier

/-- A step that accepts nothing, or another identifier, is no acceptance. -/
theorem acceptances_eq_zero {event : Option Event}
    (h : ∀ e ∈ event, ∀ r ∈ e.accepted?, r.identifier ≠ identifier) :
    acceptances identifier event.toList = 0 := by
  refine List.countP_eq_zero.mpr fun r hr => ?_
  obtain ⟨e, he, haccepted⟩ := List.mem_filterMap.mp hr
  simpa using h e (Option.mem_toList.mp he) r haccepted

/-- A lookup of finished work finds it. -/
theorem answer_of_finishedFor {m m' : Memory} {r : Request} {answer : Except Store.Error Bool}
    (h : FinishedFor r.identifier m) (hreplies : Replies (lookingUp r) m answer m') :
    answer = .ok true := by
  obtain ⟨record, hrecord, hfinished, hidentifier⟩ := h
  have haccepts : (Run.Filter.forIdentifier r.identifier).accepts record = true := by
    rw [← hidentifier]
    exact Run.Filter.forIdentifier_matchesIdentifier _
  have hfound : m.answer (.exists_ (.forIdentifier r.identifier) .finished) = (.ok true, m) :=
    hfinished ▸ Memory.answer_exists_of_mem hrecord haccepts
  cases hreplies with
  | store _ _ => exact congrArg Prod.fst hfound
  | other h _ _ => exact absurd rfl (h _)

namespace Ticking.Settled

variable {d d' : Deployment} {ticks others : Multiset (Task (Except Report Nat))}
  {task next : Task (Except Report Nat)}

/-- A request of a tick does not accept settled work, nor does it lead to its queueing. -/
theorem tick (h : Settled identifier ⟨d, ticks⟩) (htick : ticks = task ::ₘ others)
    (hchange : TickChange c head d task event next d') :
    Settled identifier ⟨d', next ::ₘ others⟩ ∧ acceptances identifier (some event).toList = 0 := by
  have hunqueued := h.unqueued
  rw [htick] at hunqueued
  cases hchange with
  | aside hbefore hafter hevent =>
    refine ⟨⟨h.finished, ?_⟩, acceptances_eq_zero ?_⟩
    · rwa [hafter.queueing_cons, ← hbefore.queueing_cons]
    · rintro e ⟨⟩ r hr
      rw [accepted?_of_not_isActed hevent] at hr
      cases hr
  | @look r rest answer hr hrest hreplies =>
    rw [(Tick.submit hr hrest).queueing_cons] at hunqueued
    have hidle (result : Except Store.Error Submission) :
        Settled identifier ⟨d, rest result ::ₘ others⟩ :=
      ⟨h.finished, by rwa [(hrest result).queueing_cons]⟩
    refine ⟨?_, acceptances_eq_zero fun e he r hr => by cases he; cases hr⟩
    cases answer with
    | error e => exact hidle _
    | ok finished =>
      cases finished with
      | true => exact hidle _
      | false =>
        -- A lookup finds the finished work, so what it does not find is other work.
        have hne : r.identifier ≠ identifier := by
          rintro rfl
          cases answer_of_finishedFor h.finished hreplies
        have hnext : Queueing c head ((enqueueing c.scheduler r).bind rest) r :=
          ⟨hr, rest, hrest, rfl⟩
        refine ⟨h.finished, ?_⟩
        change ∀ r' ∈ ((enqueueing c.scheduler r).bind rest ::ₘ others).filterMap queueing?,
          r'.identifier ≠ identifier
        rw [hnext.queueing_cons]
        exact Multiset.forall_mem_cons.mpr ⟨hne, hunqueued⟩
  | @enqueue r rest answer queue hr hrest hanswers =>
    have hfirst : Queueing c head ((enqueueing c.scheduler r).bind rest) r := ⟨hr, rest, hrest, rfl⟩
    rw [hfirst.queueing_cons, Multiset.forall_mem_cons] at hunqueued
    refine ⟨⟨h.finished, ?_⟩, acceptances_eq_zero ?_⟩
    · rw [(hrest _).queueing_cons]
      exact hunqueued.2
    · rintro e ⟨⟩ r' hr'
      cases answer with
      | accepted =>
        cases hr'
        exact hunqueued.1
      | duplicate reason => cases hr'

/-- No step accepts settled work, which stays settled. -/
theorem step {event : Option Event} (h : s.Settled identifier)
    (hmirrors : Mirrors c head compares deadline events s seen submissions)
    (hstep : Ticking.Step c head compares deadline s event t) :
    t.Settled identifier ∧ acceptances identifier event.toList = 0 := by
  cases hstep with
  | begin =>
    refine ⟨⟨h.finished, ?_⟩, rfl⟩
    rw [(tick_tick c head).queueing_cons]
    exact h.unqueued
  | tick htick hanswers hreplies hsees =>
    obtain ⟨hfirst, -⟩ := hmirrors.ticks_cons htick
    exact h.tick htick (tick_change hfirst hanswers hreplies hsees)
  | @finish d ticks others result htick =>
    have hunqueued := h.unqueued
    rw [htick, (Tick.done result : Tick c head _).queueing_cons] at hunqueued
    exact ⟨⟨h.finished, hunqueued⟩, rfl⟩
  | deploy hstep hcalled =>
    obtain ⟨-, haccepted, hbeside⟩ := deploy_beside hstep hmirrors.silent hcalled submissions
    obtain ⟨hkeeps, -⟩ := hmirrors.reaches.keepsFinished hbeside
    refine ⟨⟨h.finished.keep hkeeps, h.unqueued⟩, acceptances_eq_zero fun e he r hr => ?_⟩
    rw [haccepted e he] at hr
    cases hr

end Ticking.Settled

/-- What leads on from where a run has led is a run. -/
theorem Ticking.Reaches.continued (hrun : Ticking.Reaches c head compares deadline events s)
    (hmore : Ticking.Leads c head compares deadline s more t) :
    Ticking.Reaches c head compares deadline (events ++ more) t := by
  induction hmore with
  | refl => rwa [List.append_nil]
  | step _ hstep ih =>
    rw [← List.append_assoc]
    exact ih.step hstep

/-- Settled work is never accepted again. -/
theorem Ticking.Settled.acceptances_eq_zero (h : s.Settled identifier)
    (hrun : Ticking.Reaches c head compares deadline events s)
    (hmore : Ticking.Leads c head compares deadline s more t) :
    t.Settled identifier ∧ acceptances identifier more = 0 := by
  induction hmore with
  | refl => exact ⟨h, rfl⟩
  | step hmore hstep ih =>
    obtain ⟨hsettled, hnone⟩ := ih
    obtain ⟨seen, submissions, hmirrors⟩ := (hrun.continued hmore).mirrors
    obtain ⟨hnext, hlast⟩ := hsettled.step hmirrors hstep
    refine ⟨hnext, ?_⟩
    rw [acceptances_append, hnone, hlast]

/-! ## Accepted again -/

/-- Where all ticks see the same commit, only benchmarks at this commit are accepted. Each acceptance
of a benchmark but the first one comes after a removal of its element. As long as no attempt at it has
succeeded, each of its elements was removed after as many failed attempts as an element may use. Once
an attempt has succeeded it is not accepted any more, if no tick has looked it up before. -/
theorem accepted_again_after_exhaustion
    (hrun : Ticking.Reaches c head compares deadline events s) (identifier : Run.Identifier) :
    (∀ r ∈ accepted events, ∃ benchmark ∈ c.benchmarks,
      r.identifier = Cron.identifier head benchmark) ∧
    acceptances identifier events ≤ removals identifier events + 1 ∧
    (Unsuccessful identifier events →
      c.attempts * removals identifier events ≤ failures identifier events) ∧
    (Succeeded events s.deployment identifier →
      (∀ r ∈ s.ticks.filterMap queueing?, r.identifier ≠ identifier) →
      ∀ more t, Ticking.Leads c head compares deadline s more t → acceptances identifier more = 0) := by
  obtain ⟨seen, submissions, hmirrors⟩ := hrun.mirrors
  have hreaches := hmirrors.reaches.system
  refine ⟨fun r hr => (hmirrors.regular r hr).identifier, ?_, fun hunsuccessful => ?_, ?_⟩
  · rw [hmirrors.acceptances_eq, hmirrors.removals_eq]
    exact hreaches.acceptances_le identifier
  · have hbudget : ∀ r ∈ accepted seen, r.identifier = identifier →
        c.attempts ≤ (({} : Queue).elementOf c.scheduler.defaultRetries r).maxAttempts.toNat := by
      intro r hr _
      rw [← hmirrors.accepted_eq] at hr
      exact (hmirrors.regular r hr).attempts_eq.le
    unfold Unsuccessful at hunsuccessful
    rw [hmirrors.endings_eq] at hunsuccessful
    rw [hmirrors.removals_eq, failures, hmirrors.endings_eq]
    exact hreaches.removals_le hbudget hunsuccessful
  · intro hsucceeded hunqueued more t hmore
    have hsettled : s.Settled identifier := ⟨hmirrors.succeeded hsucceeded, hunqueued⟩
    exact (hsettled.acceptances_eq_zero hrun hmore).2

/-- Regular submissions of one benchmark that may be attempted once. -/
def nightly : Cron :=
  { scheduler := { defaultRetries := 0 }
    source := { dir := "clone", remote := "engine.git", branch := "main" }
    benchmarks := ["micro"]
    runConfig := "micro.toml"
    interval := .ofSeconds 3600 }

/-- In a run with a failed and a successful attempt, the benchmark is accepted twice, and never again. -/
theorem accepted_again_after_exhaustion_nightly : ∃ before s after t,
    Ticking.Reaches nightly "4be2a1f" true Run.defaultDeadline before s ∧
    nightly.attempts * removals (Cron.identifier "4be2a1f" "micro") before ≤
      failures (Cron.identifier "4be2a1f" "micro") before ∧
    Ticking.Reaches nightly "4be2a1f" true Run.defaultDeadline (before ++ after) t ∧
    acceptances (Cron.identifier "4be2a1f" "micro") (before ++ after) = 2 ∧
    1 ≤ removals (Cron.identifier "4be2a1f" "micro") (before ++ after) ∧
    ∀ more u, Ticking.Leads nightly "4be2a1f" true Run.defaultDeadline t more u →
      acceptances (Cron.identifier "4be2a1f" "micro") more = 0 := by
  obtain ⟨before, s, after, t, hbefore, -, hone, hunsuccessful, hafter, hagain, hsucceeded, hidle⟩ :=
    Ticking.reaches_resubmitted nightly "4be2a1f" true Run.defaultDeadline (by decide) rfl rfl
  have hrun := hbefore.continued hafter
  obtain ⟨-, -, hpaid, -⟩ := accepted_again_after_exhaustion hbefore (Cron.identifier "4be2a1f" "micro")
  obtain ⟨-, hle, -, hsettled⟩ := accepted_again_after_exhaustion hrun (Cron.identifier "4be2a1f" "micro")
  have htwo : acceptances (Cron.identifier "4be2a1f" "micro") (before ++ after) = 2 := by
    rw [acceptances_append, hone, hagain]
  have hunqueued : ∀ r ∈ t.ticks.filterMap queueing?,
      r.identifier ≠ Cron.identifier "4be2a1f" "micro" := by
    rw [hidle]
    exact fun _ hmem => absurd hmem (Multiset.notMem_zero _)
  exact ⟨before, s, after, t, hbefore, hpaid hunsuccessful, hrun, htwo, by omega,
    hsettled hsucceeded hunqueued⟩

/-- So a benchmark is not accepted at most once at a commit: it is accepted again after its element was
dropped with all its attempts used up. -/
theorem exhausted_accepted_again : ∃ before s after t,
    Ticking.Reaches nightly "4be2a1f" true Run.defaultDeadline before s ∧
    acceptances (Cron.identifier "4be2a1f" "micro") before = 1 ∧
    .executionEnded (nightly.element "4be2a1f" "micro" 0).started (.exhausted 1) ∈ before ∧
    Ticking.Reaches nightly "4be2a1f" true Run.defaultDeadline (before ++ after) t ∧
    ¬ acceptances (Cron.identifier "4be2a1f" "micro") (before ++ after) ≤ 1 := by
  obtain ⟨before, s, after, t, hbefore, hexhausted, hone, -, hafter, hagain, -, -⟩ :=
    Ticking.reaches_resubmitted nightly "4be2a1f" true Run.defaultDeadline (by decide) rfl rfl
  refine ⟨before, s, after, t, hbefore, hone, hexhausted, hbefore.continued hafter, ?_⟩
  rw [acceptances_append, hone, hagain]
  decide

end BenchQueue.Worker
