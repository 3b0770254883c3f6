import BenchQueue.Proofs.Scheduling.Ceiling
import BenchQueue.Proofs.Scheduling.Duties
import BenchQueue.Proofs.Scheduling.Resubmission

/-!
# What the dispatch loop leaves behind

When the loop has returned, no task has an element any more. The elements whose executions ended were
removed; those whose executions were given up after the grace period, or broke down, still execute as
far as the queue knows, and their attempts may still be in progress.
-/

namespace BenchQueue.Scheduling

variable {config : Config} {compares : Bool} {seen : Nat} {events : List Event} {event : Event}
  {s t : System} {v w : Service} {asked : List (Flow.Exchange Effects)}

/-! ## What every run of the loop keeps -/

/-- What holds of a service after a run: the loop is at one of its duties, or it has returned and no task
has an element; and the elements that were handed out are with a task, or they were removed or
abandoned. -/
structure Service.Guided (config : Config) (events : List Event) (v : Service) : Prop where
  loop : ∀ rest, v.loop = some rest → ∃ duty : Duty, duty.Fits config v.system v.asked ∧
    rest.Achieves (Handles config) duty fun next duty => duty = dutyAfter next
  returned : v.loop = none → v.system.admitted = 0 ∧ v.system.executions = 0
  balance : (dispatched events : Multiset Element) =
    v.system.held + ((released events : Multiset Element) + (abandoned events : Multiset Element))
  grace : ∀ e, .executionAborted e ∈ events → GraceOver config v.asked

/-- A loop that goes on at one of its duties. -/
theorem guided_of_loop (duty : Duty) {rest : Task (Option Dispatcher)} (hloop : v.loop = some rest)
    (hfits : duty.Fits config v.system v.asked)
    (hachieves : rest.Achieves (Handles config) duty fun next duty => duty = dutyAfter next)
    (hbalance : (dispatched events : Multiset Element) =
      v.system.held + ((released events : Multiset Element) + (abandoned events : Multiset Element)))
    (hgrace : ∀ e, .executionAborted e ∈ events → GraceOver config v.asked) :
    v.Guided config events where
  loop _ hrest := by
    obtain rfl := Option.some.inj (hloop.symm.trans hrest)
    exact ⟨duty, hfits, hachieves⟩
  returned hnone := nomatch hloop.symm.trans hnone
  balance := hbalance
  grace := hgrace

/-- A service is at its duties when it starts. -/
theorem guided_start (config : Config) (seen : Nat) : (Service.start seen).Guided config [] :=
  guided_of_loop .dispatching rfl rfl (start_achieves seen) rfl
    fun _ hmem => absurd hmem List.not_mem_nil

/-- One more step with its part of the balance. -/
theorem balance_concat (h : (dispatched events : Multiset Element) =
      s.held + ((released events : Multiset Element) + (abandoned events : Multiset Element)))
    (hstep : s.held + (dispatched [event] : Multiset Element) =
      t.held + ((released [event] : Multiset Element) + (abandoned [event] : Multiset Element))) :
    (dispatched (events ++ [event]) : Multiset Element) =
      t.held + ((released (events ++ [event]) : Multiset Element) +
        (abandoned (events ++ [event]) : Multiset Element)) := by
  rw [dispatched_append, released_append, abandoned_append, ← Multiset.coe_add,
    ← Multiset.coe_add, ← Multiset.coe_add, h, add_right_comm, hstep]
  ac_rfl

/-- A step that gives nothing up does not change whether something was given up. -/
theorem grace_concat (h : ∀ e, .executionAborted e ∈ events → GraceOver config asked)
    (hkept : ∀ e, event ≠ .executionAborted e) (more : List (Flow.Exchange Effects)) :
    ∀ e, .executionAborted e ∈ events ++ [event] → GraceOver config (asked ++ more) := by
  intro e hmem
  rcases List.mem_append.mp hmem with hmem | hmem
  · exact (h e hmem).append more
  · exact absurd (List.mem_singleton.mp hmem).symm (hkept e)

/-- A step of the service keeps the loop at its duties and the elements in balance. -/
theorem Service.Guided.step {event : Option Event} (h : v.Guided config events)
    (hdisciplined : v.system.Disciplined config) (hstep : Service.Step config compares v event w) :
    w.Guided config (events ++ event.toList) := by
  cases hstep with
  | @other event system hstep hother =>
    obtain ⟨hadmitted, hexecutions⟩ := hstep.of_other hother
    have hkept : ∀ e, event ≠ .executionAborted e := by
      rintro e rfl
      exact hother trivial
    constructor
    · intro rest hloop
      obtain ⟨duty, hfits, hachieves⟩ := h.loop rest hloop
      exact ⟨duty, hfits.other hadmitted hexecutions, hachieves⟩
    · intro hloop
      obtain ⟨hnone, hover⟩ := h.returned hloop
      exact ⟨hadmitted.trans hnone, hexecutions hover⟩
    · exact balance_concat h.balance (hstep.held hdisciplined hkept)
    · have hgrace := grace_concat h.grace hkept []
      rwa [List.append_nil] at hgrace
  | @observe effect next answer hloop hobserves =>
    obtain ⟨duty, hfits, hhandled, hnext⟩ := h.loop _ hloop
    obtain ⟨duty', hhandles, hfits'⟩ := hfits.observe hobserves hhandled
    rw [Option.toList_none, List.append_nil]
    exact guided_of_loop duty' rfl hfits' (hnext answer duty' hhandles) h.balance
      fun e hmem => (h.grace e hmem).append _
  | @dispatch next found system hloop hstep =>
    obtain ⟨duty, hfits, ⟨_, _, hhandles⟩, hnext⟩ := h.loop _ hloop
    cases hhandles with
    | dispatch _ =>
      have hbalance := balance_concat h.balance (hstep.held hdisciplined fun _ => Event.noConfusion)
      refine guided_of_loop _ rfl ?_ (hnext found _ (.dispatch found)) hbalance
        (grace_concat h.grace (fun _ => Event.noConfusion) _)
      cases hstep with
      | dispatch _ =>
        cases found with
        | none => exact hfits
        | some e => exact congrArg (e ::ₘ ·) hfits
  | @begin e seen next others hloop helement =>
    obtain ⟨duty, hfits, ⟨_, _, hhandles⟩, hnext⟩ := h.loop _ hloop
    cases hhandles with
    | begin _ _ =>
      have hstep : Scheduling.Step config compares v.system (.executionBegan e) _ :=
        .begin seen helement
      -- The loop hands out one element at a time, so it is the only one that is to be executed.
      have hothers : others = 0 := by
        have hone : e ::ₘ others = e ::ₘ 0 := helement.symm.trans hfits
        exact (Multiset.cons_inj_right e).mp hone
      have hbalance := balance_concat h.balance (hstep.held hdisciplined fun _ => Event.noConfusion)
      exact guided_of_loop .dispatching rfl hothers (hnext () _ (.begin e seen)) hbalance
        (grace_concat h.grace (fun _ => Event.noConfusion) _)
  | @abort next x others hloop htask hheld =>
    obtain ⟨duty, hfits, hachieves⟩ := h.loop _ hloop
    obtain ⟨_, _, hhandles⟩ := hachieves.1
    cases hhandles with
    | abortExecutions =>
      -- The element moves from those that tasks have to those that were given up.
      refine guided_of_loop .overdue hloop hfits hachieves (balance_concat h.balance ?_) fun _ _ => hfits.2
      rw [held_eq htask, hheld]
      change {_} + (v.system.admitted + _) + 0 = v.system.admitted + _ + (0 + {_})
      rw [add_zero, zero_add, add_comm]
  | @round d hloop =>
    obtain ⟨duty, hfits, hduty⟩ := h.loop _ hloop
    obtain rfl : duty = .dispatching := hduty
    rw [Option.toList_none, List.append_nil]
    exact guided_of_loop .dispatching rfl hfits (round_achieves d) h.balance h.grace
  | stop hloop =>
    obtain ⟨duty, hfits, hduty⟩ := h.loop _ hloop
    obtain rfl : duty = .emptied := hduty
    rw [Option.toList_none, List.append_nil]
    exact ⟨nofun, fun _ => hfits, h.balance, h.grace⟩

/-- Every run leaves the loop at its duties and the elements in balance. -/
theorem Service.Reaches.guided (hrun : Service.Reaches config compares seen events v) :
    v.Guided config.normalized events := by
  induction hrun with
  | start => exact guided_start _ _
  | step hrun hstep ih => exact ih.step hrun.system.disciplined hstep

/-! ## After the last round -/

/-- When no task has an element, the queue still executes what was abandoned. -/
theorem Service.Guided.executing (h : v.Guided config events) (hreturned : v.loop = none)
    (hordered : v.system.Ordered config.defaultRetries events) :
    v.system.queue.executing.Perm (abandoned events) ∧
      (released events ++ abandoned events).Perm (dispatched events) := by
  obtain ⟨hadmitted, hexecutions⟩ := h.returned hreturned
  have hheld : v.system.held = 0 := by
    rw [System.held, hadmitted, hexecutions]
    rfl
  have hbalance := h.balance
  rw [hheld, zero_add] at hbalance
  have hhanded : (v.system.queue.executing : Multiset Element) + released events =
      dispatched events := Multiset.coe_eq_coe.mpr hordered.handed
  constructor
  · rw [hbalance, add_comm] at hhanded
    exact Multiset.coe_eq_coe.mp (add_left_cancel hhanded)
  · rw [Multiset.coe_add] at hbalance
    exact (Multiset.coe_eq_coe.mp hbalance).symm

/-- When the loop has returned, nothing that it handed out is left in the queue, no slot is taken and
no attempt is in progress exactly if no execution was given up or broke down. In any case no execution
goes on, all that was handed out was removed or abandoned, the abandoned elements are those that
execute as far as the queue knows, with their slots, and the attempts in progress are theirs. An
execution is given up only after the grace period. -/
theorem returned_leaves_abandoned (hrun : Service.Reaches config compares seen events v)
    (hreturned : v.loop = none) :
    (v.system.queue.executing = [] ∧ v.system.queue.inFlight = 0 ∧ v.system.attempts = 0 ↔
      abandoned events = []) ∧
    v.system.executions = 0 ∧ (released events ++ abandoned events).Perm (dispatched events) ∧
    v.system.queue.executing.Perm (abandoned events) ∧
    v.system.queue.inFlight = (abandoned events).length ∧
    v.system.attempts.map (·.identifier) ≤ ((abandoned events).map (·.identifier) : Multiset _) ∧
    ∀ e, .executionAborted e ∈ events → GraceOver config v.asked := by
  have hguided := hrun.guided
  have haccounted := hrun.system.accounted
  -- No task has an element any more: what executes in the queue was abandoned.
  obtain ⟨hleft, hhanded⟩ := hguided.executing hreturned hrun.system.ordered
  have hslots : v.system.queue.inFlight = (abandoned events).length :=
    haccounted.queue.slots.trans hleft.length_eq
  have hattempts : v.system.attempts.map (·.identifier) ≤
      ((abandoned events).map (·.identifier) : Multiset _) := by
    have hidentifiers := Multiset.coe_eq_coe.mpr (hleft.map (·.identifier))
    rw [← hidentifiers]
    exact haccounted.attempts_le
  refine ⟨⟨fun hnothing => ?_, fun hnone => ?_⟩, (hguided.returned hreturned).2, hhanded, hleft,
    hslots, hattempts, hguided.grace⟩
  · rw [hnothing.1] at hleft
    exact hleft.nil_eq.symm
  · rw [hnone] at hleft hslots hattempts
    exact ⟨hleft.eq_nil, hslots, Multiset.map_eq_zero.mp (Multiset.le_zero.mp hattempts)⟩

/-! ## Runs of the loop -/

namespace Service.Reaches

variable {q q' : Queue} {submissions : Multiset (Task (Except Store.Error Submission))}
  {executions : Multiset Execution} {attempts : Multiset Attempt} {begun : Nat} {e : Element}
  {x : Execution} {r : Request} {d : Dispatcher} {loop : Option (Task (Option Dispatcher))}

/-- A request can be accepted while the loop runs. -/
theorem submit
    (hrun : Reaches config compares seen events
      ⟨⟨q, submissions, 0, executions, attempts, begun⟩, loop, asked⟩) (r : Request)
    (hqueue : q.submit config.normalized.defaultRetries r = (.accepted, q')) :
    Reaches config compares seen
      (events ++ lookup r ++ [.submitting (.enqueue config.normalized.defaultRetries r) .accepted])
      ⟨⟨q', Flow.done (.ok .accepted) ::ₘ submissions, 0, executions, attempts, begun⟩, loop,
        asked⟩ := by
  have hlookup : Answers (.store (.exists_ (.forIdentifier r.identifier) .finished)) q
      (Except.ok false) q := .outside rfl _ _
  have henqueue := Answers.enqueue config.normalized.defaultRetries r q
  rw [hqueue] at henqueue
  have hcalled := hrun.step (.other (.call _ r) id)
  have hlooked := hcalled.step (.other (.submit rfl (.ask hlookup)) id)
  have haccepted := hlooked.step (.other (.submit rfl (.ask henqueue)) id)
  rw [List.append_assoc, List.append_assoc] at haccepted
  rw [List.append_assoc]
  exact haccepted

/-- A round can hand out an element and begin its execution. -/
theorem handOut
    (hrun : Reaches config compares seen events
      ⟨⟨q, submissions, 0, executions, attempts, begun⟩, some (Flow.done (some d)), asked⟩)
    (hqueue : q.dispatch? config.normalized.maxConcurrentJobs.toNat = some (e, q')) :
    ∃ d' asked', Reaches config compares seen
      (events ++ [.dispatched (some e), .executionBegan e])
      ⟨⟨q', submissions, 0,
        ⟨e, .running (execute config.normalized compares e d.seen)⟩ ::ₘ executions, attempts, begun⟩,
        some (Flow.done (some d')), asked'⟩ := by
  have hround := hrun.step (.round rfl)
  have hwoken := hround.step (.observe rfl (.wait _ _ .elapsed _))
  have htimed := hwoken.step (.observe rfl (.instant ⟨0⟩ _))
  have hgoes := htimed.step (.observe rfl (.signal {} _))
  have hstep : Scheduling.Step config.normalized compares
      ⟨q, submissions, 0, executions, attempts, begun⟩ (.dispatched (some e))
      ⟨q', submissions, e ::ₘ 0, executions, attempts, begun⟩ := .dispatch (.ask (.dispatch hqueue))
  have hdispatched := hgoes.step (.dispatch rfl hstep)
  have hadmitted : e ::ₘ (0 : Multiset Element) = e ::ₘ 0 := rfl
  have hbegun := hdispatched.step (.begin rfl hadmitted)
  simp only [Option.toList_none, List.append_nil, Option.toList_some, List.append_assoc] at hbegun
  exact ⟨_, _, hbegun⟩

/-- An execution that has just begun can make an attempt. -/
theorem attempt {number : Nat}
    (hrun : Reaches config compares seen events
      ⟨⟨q, submissions, 0, ⟨e, .running (execute config.normalized compares e number)⟩ ::ₘ executions,
        attempts, begun⟩, loop, asked⟩) :
    ∃ more next, Reaches config compares seen (events ++ more)
        ⟨⟨q, submissions, 0, ⟨e, .awaiting begun next⟩ ::ₘ executions,
          attemptAt (e, begun) ::ₘ attempts, begun + 1⟩, loop, asked⟩ ∧
      dispatched more = [] ∧ abandoned more = [] := by
  obtain ⟨next, hexecute, -⟩ := execute_eq config.normalized compares e number
  rw [hexecute, waitBefore_one] at hrun
  split at hrun
  · have hdraw : Answers Effect.draw q (0.0 : Float) q := .outside rfl _ _
    have hdrawn := hrun.step (.other (.execute rfl (.ask hdraw)) id)
    have hattempt := hdrawn.step (.other (.beginAttempt rfl) id)
    rw [List.append_assoc] at hattempt
    exact ⟨_, next, hattempt, rfl, rfl⟩
  · exact ⟨_, next, hrun.step (.other (.beginAttempt rfl) id), rfl, rfl⟩

/-- The loop can be told to stop while an attempt is in progress, and give its execution up after the
grace period. -/
theorem giveUp {number : Nat} {next : AttemptEnd → Task Outcome}
    (hrun : Reaches config compares seen events
      ⟨⟨q, submissions, 0, ⟨e, .awaiting number next⟩ ::ₘ 0, attempts, begun⟩,
        some (Flow.done (some d)), asked⟩) :
    ∃ asked', Reaches config compares seen (events ++ [.executionAborted e])
      ⟨⟨q, submissions, 0, 0, attempts, begun⟩, none, asked'⟩ := by
  have hround := hrun.step (.round rfl)
  have hwoken := hround.step (.observe rfl (.wait _ _ (.news (.changed 1)) _))
  have hstopped := hwoken.step (.observe rfl (.signal { value := true } _))
  have hexecutes := hstopped.step (.observe rfl (.hasExecutions true Bool.noConfusion))
  have htimed := hexecutes.step (.observe rfl (.instant ⟨0⟩ _))
  have hsome : (⟨e, .awaiting number next⟩ ::ₘ 0 : Multiset Execution) ≠ 0 := Multiset.cons_ne_zero
  have hlate := htimed.step (.observe rfl (.awaitExecutions _ false
    ⟨Bool.noConfusion, fun hnone => absurd hnone hsome⟩))
  have htask : (⟨e, .awaiting number next⟩ ::ₘ 0 : Multiset Execution) =
      ⟨e, .awaiting number next⟩ ::ₘ 0 := rfl
  have haborted := hlate.step (.abort rfl htask rfl)
  have hgone := haborted.step (.observe rfl (.abortExecutions rfl))
  have hreturned := hgone.step (.stop rfl)
  simp only [Option.toList_none, List.append_nil, Option.toList_some] at hreturned
  exact ⟨_, hreturned⟩

end Service.Reaches

/-- The loop can return while the attempt of an execution that it has given up is in progress. -/
theorem reaches_given_up : ∃ events asked,
    Service.Reaches {} true 0 events
      ⟨⟨⟨[(microElement "4be2a1f" 0).started], 1, 1⟩, Flow.done (.ok .accepted) ::ₘ 0, 0, 0,
        attemptAt ((microElement "4be2a1f" 0).started, 0) ::ₘ 0, 1⟩, none, asked⟩ ∧
      dispatched events = [(microElement "4be2a1f" 0).started] ∧
      abandoned events = [(microElement "4be2a1f" 0).started] := by
  let a := microElement "4be2a1f" 0
  have hstart : Service.Reaches {} true 0 [] (Service.start 0) := .start
  have hready := hstart.step (.observe rfl (.instant ⟨0⟩ _))
  have hqueued := hready.submit (microRequest "4be2a1f") (submit_empty _ _ 0)
  obtain ⟨_, _, hbegun⟩ := hqueued.handOut (dispatch?_only le_rfl rfl 1)
  obtain ⟨more, next, hattempted, hdispatched, habandoned⟩ := hbegun.attempt
  obtain ⟨asked, hreturned⟩ := hattempted.giveUp
  refine ⟨_, asked, hreturned, ?_, ?_⟩
  · simp only [dispatched_append, hdispatched]
    rfl
  · simp only [abandoned_append, habandoned]
    rfl

/-- What the loop leaves behind is the element of the execution that it has given up. -/
theorem returned_leaves_abandoned_overdue : ∃ events v, Service.Reaches {} true 0 events v ∧
    v.loop = none ∧ abandoned events = [(microElement "4be2a1f" 0).started] ∧
    v.system.queue.executing.Perm [(microElement "4be2a1f" 0).started] ∧
    v.system.queue.inFlight = 1 ∧ v.system.executions = 0 := by
  obtain ⟨events, asked, hrun, -, habandoned⟩ := reaches_given_up
  obtain ⟨-, hover, -, hleft, hslots, -⟩ := returned_leaves_abandoned hrun rfl
  rw [habandoned] at hleft hslots
  exact ⟨events, _, hrun, rfl, habandoned, hleft, hslots, hover⟩

/-- So an attempt may go on after the loop has returned, and its element may stay in the queue and keep
its slot. -/
theorem attempt_outlives_loop : ∃ events v, Service.Reaches {} true 0 events v ∧ v.loop = none ∧
    dispatched events = [(microElement "4be2a1f" 0).started] ∧
    v.system.attempts = {attemptAt ((microElement "4be2a1f" 0).started, 0)} ∧
    v.system.queue.elements = [(microElement "4be2a1f" 0).started] ∧
    v.system.queue.inFlight = 1 := by
  obtain ⟨events, asked, hrun, hdispatched, -⟩ := reaches_given_up
  exact ⟨events, _, hrun, rfl, hdispatched, rfl, rfl, rfl⟩

end BenchQueue.Scheduling
