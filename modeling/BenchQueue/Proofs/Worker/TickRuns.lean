import BenchQueue.Proofs.Scheduling.Resubmission
import BenchQueue.Proofs.Worker.Ticking

/-!
# Ticks that submit, and attempts that fail

A tick whose git commands succeed submits a benchmark that is neither queued nor finished. An element
that may be attempted once leaves the queue when this attempt fails, and then the next tick submits the
benchmark again.
-/

namespace BenchQueue.Worker

open BenchQueue.Scheduling
open BenchQueue.Store (Memory)

variable {c : Cron} {head benchmark : String} {compares : Bool} {deadline : Duration}
  {events : List Event} {s : Ticking} {d : Deployment} {m m' : Memory} {e : Element}
  {ticks : Multiset (Task (Except Report Nat))} {serial begun : Nat}

/-- The request of a tick for a benchmark that has no finished run. -/
def Cron.request (c : Cron) (head benchmark : String) : Request :=
  { identifier := Cron.identifier head benchmark, configPath := c.runConfig }

/-- The element of this request. -/
def Cron.element (c : Cron) (head benchmark : String) (serial : Nat) : Element :=
  ({ nextSerial := serial } : Queue).elementOf c.scheduler.defaultRetries (c.request head benchmark)

/-- How many attempts an element of the regular submissions may use. -/
def Cron.attempts (c : Cron) : Nat :=
  ({ (default : Element) with retry := c.scheduler.defaultRetries } : Element).maxAttempts.toNat

/-- Every regular submission may use the same number of attempts. -/
theorem IsRegular.attempts_eq {r : Request} (h : IsRegular c head r) :
    c.attempts = (({} : Queue).elementOf c.scheduler.defaultRetries r).maxAttempts.toNat := by
  unfold Cron.attempts Queue.elementOf Element.maxAttempts
  rw [h.retry]
  rfl

/-- A scheduler in which nothing is in progress. -/
def idle (elements : List Element) (serial begun : Nat) : Deployment :=
  { system := { queue := { elements, nextSerial := serial }, begun } }

/-- The events of submissions that leave the queue alone. -/
def Aloof (events : List Event) : Prop :=
  ∀ event ∈ events, event.accepted? = none ∧ ∀ identifier, event.ended? identifier = none

/-- No events leave the queue alone. -/
theorem aloof_nil : Aloof [] := fun _ hmem => absurd hmem List.not_mem_nil

/-- A submission that asks something else than the queue leaves it alone. -/
theorem aloof_submitting {effect : Effect} (houtside : isOutside effect = true)
    (answer : effect.Answer) : Aloof [.submitting effect answer] :=
  List.forall_mem_singleton.mpr ⟨accepted?_of_outside houtside answer, fun _ => rfl⟩

/-- Events leave the queue alone if those of both stretches do. -/
theorem Aloof.append {before after : List Event} (hbefore : Aloof before) (hafter : Aloof after) :
    Aloof (before ++ after) :=
  List.forall_mem_append.mpr ⟨hbefore, hafter⟩

/-- Events that leave the queue alone accept nothing. -/
theorem Aloof.accepted_eq (h : Aloof events) : accepted events = [] :=
  List.filterMap_eq_nil_iff.mpr fun event hmem => (h event hmem).1

/-- No attempt ends in events that leave the queue alone. -/
theorem Aloof.endings_eq (h : Aloof events) (identifier : Run.Identifier) :
    endings identifier events = [] :=
  List.filterMap_eq_nil_iff.mpr fun event hmem => (h event hmem).2 identifier

namespace Ticking.Leads

/-! ## A tick -/

/-- A request of a tick that leaves the queue alone is answered. -/
theorem ask {effect : Effect} {next : effect.Answer → Task (Except Report Nat)}
    (h : Leads c head compares deadline s events ⟨d, Flow.ask effect next ::ₘ ticks⟩)
    (houtside : isOutside effect = true) (answer : effect.Answer)
    (hreplies : Replies effect d.memory answer d.memory) (hsees : SeesHead head effect answer) :
    Leads c head compares deadline s (events ++ [.submitting effect answer])
      ⟨d, next answer ::ₘ ticks⟩ :=
  h.step (.tick rfl (.outside houtside answer _) hreplies hsees)

/-- A git command succeeds, with the commit as its output. -/
theorem git (hhead : Text.trim head = head) {dir : Option String} {arguments : List String}
    {rest : Except Report String → Task (Except Report Nat)}
    (h : Leads c head compares deadline s events
      ⟨d, (Source.git dir arguments).bind rest ::ₘ ticks⟩) :
    ∃ more, Aloof more ∧ Leads c head compares deadline s (events ++ more)
      ⟨d, rest (.ok head) ::ₘ ticks⟩ := by
  have hasked := h.ask rfl (Except.ok { status := .code 0, output := head, diagnostics := "" })
    (.other (fun _ => Effect.noConfusion) _ _) (by rintro f ⟨⟩ - -; exact hhead)
  exact ⟨_, aloof_submitting rfl _, hasked⟩

/-- All git commands succeed. -/
theorem gitAll (hhead : Text.trim head = head) {dir : Option String} {commands : List (List String)}
    {rest : Except Report Unit → Task (Except Report Nat)}
    (h : Leads c head compares deadline s events
      ⟨d, (Source.gitAll dir commands).bind rest ::ₘ ticks⟩) :
    ∃ more, Aloof more ∧ Leads c head compares deadline s (events ++ more)
      ⟨d, rest (.ok ()) ::ₘ ticks⟩ := by
  induction commands generalizing events with
  | nil => exact ⟨[], aloof_nil, (List.append_nil events).symm ▸ h⟩
  | cons arguments others ih =>
    change Leads c head compares deadline s events
      ⟨d, ((Source.git dir arguments).bind _).bind rest ::ₘ ticks⟩ at h
    rw [Flow.bind_assoc] at h
    obtain ⟨first, hfirst, hran⟩ := h.git hhead
    obtain ⟨more, hmore, hdone⟩ := ih hran
    rw [List.append_assoc] at hdone
    exact ⟨_, hfirst.append hmore, hdone⟩

/-- A tick submits the only benchmark if it is neither queued nor finished. -/
theorem submits (hhead : Text.trim head = head) (hbenchmarks : c.benchmarks = [benchmark])
    (h : Leads c head compares deadline s events ⟨idle [] serial begun, ticks⟩) :
    ∃ more, accepted more = [c.request head benchmark] ∧ (∀ i, endings i more = []) ∧
      Leads c head compares deadline s (events ++ more)
        ⟨idle [c.element head benchmark serial] (serial + 1) begun, .done (.ok 1) ::ₘ ticks⟩ := by
  have hbegun := h.step (.begin _)
  have hdirectory : Replies (.isDirectory (Machine.joinNames c.source.dir ".git")) {} true {} :=
    .other (fun _ => Effect.noConfusion) _ _
  have hpresent := hbegun.ask rfl true hdirectory trivial
  change Leads c head compares deadline s _ ⟨_, (Source.gitAll _ _).bind _ ::ₘ ticks⟩ at hpresent
  obtain ⟨synced, hsynced, hsync⟩ := hpresent.gitAll hhead
  change Leads c head compares deadline s _ ⟨_, ((Source.git _ _).bind _).bind _ ::ₘ ticks⟩ at hsync
  rw [Flow.bind_assoc] at hsync
  obtain ⟨seen, hseen, hfound⟩ := hsync.git hhead
  change Leads c head compares deadline s _
    ⟨_, Cron.submitRef c.scheduler c.runConfig (Text.trim head) c.benchmarks ::ₘ ticks⟩ at hfound
  rw [hhead, hbenchmarks] at hfound
  have hprevious := hfound.ask rfl (Except.ok none)
    (.store (.previousFinished cronSource benchmark head) {}) trivial
  have hlooked := hprevious.ask rfl (Except.ok false)
    (.store (.exists_ (.forIdentifier (Cron.identifier head benchmark)) .finished) {}) trivial
  have henqueue := Answers.enqueue c.scheduler.defaultRetries (c.request head benchmark)
    { nextSerial := serial }
  rw [submit_empty] at henqueue
  have haccepted := hlooked.step (.tick rfl henqueue (.other (fun _ => Effect.noConfusion) _ _) trivial)
  simp only [List.append_assoc] at haccepted
  refine ⟨_, ?_, fun i => ?_, haccepted⟩
  · simp only [accepted_append, hsynced.accepted_eq, hseen.accepted_eq]
    rfl
  · simp only [endings_append, hsynced.endings_eq, hseen.endings_eq]
    rfl

/-! ## An execution -/

/-- The scheduler goes on beside the ticks. -/
theorem beside {d' : Deployment} {more : List Event}
    (h : Leads c head compares deadline s events ⟨d, ticks⟩)
    (hmore : Deployment.Leads c.scheduler compares deadline d more d') :
    Leads c head compares deadline s (events ++ more) ⟨d', ticks⟩ := by
  induction hmore with
  | refl => rwa [List.append_nil]
  | step _ hstep hcalled ih =>
    rw [← List.append_assoc]
    exact ih.step (.deploy hstep hcalled)

/-- The only element can be handed out and attempted. -/
theorem attempt (h : Leads c head compares deadline s events ⟨idle [e] serial begun, ticks⟩)
    (he : e.executing = false) :
    ∃ more next, accepted more = [] ∧ (∀ i, endings i more = []) ∧
      (e.maxAttempts.toNat = 1 → next .panicked = givingBack e.started (.exhausted 1)) ∧
      Leads c head compares deadline s (events ++ more)
        ⟨⟨⟨⟨[e.started], 1, serial⟩, 0, 0, ⟨e.started, .awaiting begun next⟩ ::ₘ 0,
            attemptAt (e.started, begun) ::ₘ 0, begun + 1⟩, {},
          (begun, Run.executeFile deadline e.identifier e.configPath) ::ₘ 0⟩, ticks⟩ := by
  have hlimit := c.scheduler.one_le_normalized_maxConcurrentJobs
  have hadmitted := h.beside (.handOut (dispatch?_only hlimit he serial))
  obtain ⟨more, next, hleads, hunended, -, hpanicked, haccepted, -⟩ := Deployment.Leads.attempt
  have hattempted := hadmitted.beside hleads
  rw [List.append_assoc] at hattempted
  have hendings (i : Run.Identifier) : endings i ([.dispatched (some e.started)] ++ more) = [] :=
    (endings_append i _ more).trans (endings_eq_nil hunended)
  exact ⟨[.dispatched (some e.started)] ++ more, next, haccepted, hendings, hpanicked, hattempted⟩

/-- The only element leaves the queue when the only attempt that it may use fails. -/
theorem exhaust (h : Leads c head compares deadline s events ⟨idle [e] serial begun, ticks⟩)
    (he : e.executing = false) (hbudget : e.maxAttempts.toNat = 1) :
    ∃ more, accepted more = [] ∧ (∀ i, ∀ ending ∈ endings i more, ending.isSuccess = false) ∧
      .executionEnded e.started (.exhausted 1) ∈ more ∧
      Leads c head compares deadline s (events ++ more) ⟨idle [] serial (begun + 1), ticks⟩ := by
  obtain ⟨more, next, haccepted, hendings, hpanicked, hattempted⟩ := h.attempt he
  have hended := hattempted.beside .breakDown
  rw [hpanicked hbudget] at hended
  have hremoved := hended.beside .giveBack
  rw [release_only] at hremoved
  rw [List.append_assoc, List.append_assoc] at hremoved
  refine ⟨_, ?_, fun i ending hmem => ?_, by simp, hremoved⟩
  · rw [accepted_append, haccepted]
    rfl
  · rw [endings_append, hendings, List.nil_append] at hmem
    obtain ⟨event, hevent, hended⟩ := List.mem_filterMap.mp hmem
    simp only [List.singleton_append, List.mem_cons, List.not_mem_nil, or_false] at hevent
    rcases hevent with rfl | rfl | rfl
    · simp only [Event.ended?, Option.ite_none_right_eq_some] at hended
      obtain ⟨-, ⟨⟩⟩ := hended
      rfl
    · cases hended
    · cases hended

end Ticking.Leads

/-! ## Ticks after a failure -/

/-- If one request was accepted, its identifier was accepted once. -/
theorem acceptances_of_accepted {r : Request} (h : accepted events = [r]) :
    acceptances r.identifier events = 1 := by
  unfold acceptances
  rw [h]
  simp

/-- The only benchmark, to be attempted once, can be submitted and fail, and be submitted by the next
tick and succeed. -/
theorem Ticking.reaches_resubmitted (c : Cron) (head : String) (compares : Bool) (deadline : Duration)
    (hhead : Text.trim head = head) (hbenchmarks : c.benchmarks = [benchmark])
    (hattempts : c.attempts = 1) : ∃ before s after t,
    Ticking.Reaches c head compares deadline before s ∧
      .executionEnded (c.element head benchmark 0).started (.exhausted 1) ∈ before ∧
      acceptances (Cron.identifier head benchmark) before = 1 ∧
      Unsuccessful (Cron.identifier head benchmark) before ∧
      Ticking.Leads c head compares deadline s after t ∧
      acceptances (Cron.identifier head benchmark) after = 1 ∧
      Succeeded (before ++ after) t.deployment (Cron.identifier head benchmark) ∧
      t.ticks.filterMap queueing? = 0 := by
  have hstart : Ticking.Reaches c head compares deadline [] ⟨idle [] 0 0, 0⟩ := .refl
  obtain ⟨first, hfirst, hunended, hsubmitted⟩ := hstart.submits hhead hbenchmarks
  obtain ⟨failed, hfailed, hunsuccessful, hexhausted, hremoved⟩ := hsubmitted.exhaust rfl hattempts
  -- The element is gone and nothing is finished, so the next tick submits the request again.
  have hstarted : Ticking.Leads c head compares deadline
      ⟨idle [] 1 1, .done (.ok 1) ::ₘ 0⟩ [] ⟨idle [] 1 1, .done (.ok 1) ::ₘ 0⟩ := .refl
  obtain ⟨again, hagain, -, hresubmitted⟩ := hstarted.submits hhead hbenchmarks
  obtain ⟨more, next, hmore, -, -, hattempted⟩ := hresubmitted.attempt rfl
  have hends : (Run.executeFile deadline (Cron.identifier head benchmark) c.runConfig).Ends Run.Accepts
      {} (.ok ()) _ := Run.executed_ends deadline _ c.runConfig (.ok ())
  have hsucceeded := hattempted.beside (Deployment.Leads.refl.work hends)
  refine ⟨_, _, _, _, hremoved, ?_, ?_, ?_, hsucceeded, ?_, ?_, ?_⟩
  · exact List.mem_append_right _ hexhausted
  · refine acceptances_of_accepted (r := c.request head benchmark) ?_
    rw [accepted_append, hfailed, List.append_nil]
    exact hfirst
  · intro ending hmem
    rw [endings_append, List.nil_append, hunended, List.nil_append] at hmem
    exact hunsuccessful _ ending hmem
  · refine acceptances_of_accepted (r := c.request head benchmark) ?_
    simp only [accepted_append, hagain, hmore]
    rfl
  · let a := attemptAt ((c.element head benchmark 1).started, 1)
    let run : Nat × Task (Except Run.Error Unit) := (1, .done (.ok ()))
    have hattempt : a ∈ a ::ₘ 0 := Multiset.mem_cons_self _ _
    have hdone : run ∈ run ::ₘ 0 := Multiset.mem_cons_self _ _
    exact ⟨a, rfl, Or.inr ⟨hattempt, hdone⟩⟩
  · rfl

end BenchQueue.Worker
