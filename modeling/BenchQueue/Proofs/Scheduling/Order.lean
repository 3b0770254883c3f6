import BenchQueue.Proofs.Scheduling.Runs
import BenchQueue.Proofs.Scheduling.Slots

/-!
# First come, first served

The accepted requests are numbered in the order of acceptance. In every run the elements that were
handed out are the first of them, the waiting ones are the rest in the same order, and what was
handed out either executes or was removed.
-/

namespace BenchQueue.Scheduling

open scoped List

variable {config : Config} {compares : Bool} {events : List Event} {event : Event} {s t : System}
  {retries : UInt32}

/-- A step after a run may show nothing of what is looked for. -/
theorem filterMap_append_none {α : Type} {view : Event → Option α} (h : view event = none) :
    (events ++ [event]).filterMap view = events.filterMap view := by
  rw [List.filterMap_append, List.filterMap_cons_none h, List.filterMap_nil, List.append_nil]

/-- A step that shows something adds it at the end of what was seen. -/
theorem filterMap_append_some {α : Type} {view : Event → Option α} {a : α}
    (h : view event = some a) :
    (events ++ [event]).filterMap view = events.filterMap view ++ [a] := by
  rw [List.filterMap_append, List.filterMap_cons_some h, List.filterMap_nil]

/-- The elements of the accepted requests as they wait, in the order of acceptance. -/
def acceptedElements (retries : UInt32) (events : List Event) : List Element :=
  (accepted events).zipIdx.map fun (request, serial) =>
    ({ nextSerial := serial } : Queue).elementOf retries request

/-- A step that accepts nothing leaves the accepted elements as they are. -/
theorem acceptedElements_of_none (h : event.accepted? = none) :
    acceptedElements retries (events ++ [event]) = acceptedElements retries events := by
  unfold acceptedElements accepted
  rw [filterMap_append_none h]

/-- A step that accepts a request adds its element, with the next serial number. -/
theorem acceptedElements_of_some {r : Request} (h : event.accepted? = some r) :
    acceptedElements retries (events ++ [event]) =
      acceptedElements retries events ++
        [({ nextSerial := (accepted events).length } : Queue).elementOf retries r] := by
  unfold acceptedElements accepted
  rw [filterMap_append_some h, List.zipIdx_append]
  simp

/-- Serial numbers count the acceptances, so no element is accepted twice. -/
theorem map_serial_acceptedElements (retries : UInt32) (events : List Event) :
    (acceptedElements retries events).map (·.serial) =
      List.range (accepted events).length := by
  have hserial : (acceptedElements retries events).map (·.serial) =
      (accepted events).zipIdx.map (·.2) := by
    rw [acceptedElements, List.map_map]
    rfl
  rw [hserial, List.zipIdx_map_snd, List.range_eq_range']

/-- No two accepted elements are the same, even if their requests are. -/
theorem nodup_acceptedElements (retries : UInt32) (events : List Event) :
    (acceptedElements retries events).Nodup := by
  refine List.Nodup.of_map (·.serial) ?_
  rw [map_serial_acceptedElements]
  exact List.nodup_range

/-- What became of the accepted requests: those that were handed out come first, the others wait in
the order of acceptance. -/
structure System.Ordered (retries : UInt32) (events : List Event) (s : System) : Prop where
  serial : s.queue.nextSerial = (accepted events).length
  split : acceptedElements retries events =
    (dispatched events).map Element.waiting ++ s.queue.pending
  started : ∀ e ∈ dispatched events, e.executing = true
  handed : (s.queue.executing ++ released events).Perm (dispatched events)

/-- Nothing was accepted before the first step. -/
theorem ordered_start (retries : UInt32) : ({} : System).Ordered retries [] :=
  { serial := rfl
    split := rfl
    started := fun _ hmem => absurd hmem List.not_mem_nil
    handed := List.Perm.refl _ }

/-- A step that leaves the queue alone and shows nothing of it changes nothing. -/
theorem System.Ordered.unseen (h : s.Ordered retries events) (hqueue : t.queue = s.queue)
    (haccepted : event.accepted? = none) (hdispatched : event.dispatched? = none)
    (hreleased : event.released? = none) : t.Ordered retries (events ++ [event]) := by
  have haccepts : accepted (events ++ [event]) = accepted events := filterMap_append_none haccepted
  have hdispatches : dispatched (events ++ [event]) = dispatched events :=
    filterMap_append_none hdispatched
  have hreleases : released (events ++ [event]) = released events := filterMap_append_none hreleased
  constructor
  · rw [hqueue, haccepts, h.serial]
  · rw [acceptedElements_of_none haccepted, hdispatches, hqueue, h.split]
  · rw [hdispatches]
    exact h.started
  · rw [hdispatches, hreleases, hqueue]
    exact h.handed

/-- An accepted request waits behind all the others. -/
theorem System.Ordered.accept {request : Request} (h : s.Ordered retries events)
    (hqueue : s.queue.submit retries request = (.accepted, t.queue)) :
    t.Ordered retries
      (events ++ [.submitting (.enqueue retries request) .accepted]) := by
  obtain ⟨hpending, hserial⟩ := Queue.pending_of_accepted (congrArg Prod.fst hqueue)
  have hexecuting := Queue.executing_submit s.queue retries request
  rw [hqueue] at hpending hserial hexecuting
  have helement : ({ nextSerial := (accepted events).length } : Queue).elementOf
      retries request = s.queue.elementOf retries request := by
    simp only [Queue.elementOf, h.serial]
  have haccepts : accepted (events ++ [.submitting (.enqueue retries request) .accepted]) =
      accepted events ++ [request] := filterMap_append_some rfl
  have hdispatches : dispatched
      (events ++ [.submitting (.enqueue retries request) .accepted]) = dispatched events :=
    filterMap_append_none rfl
  have hreleases : released
      (events ++ [.submitting (.enqueue retries request) .accepted]) = released events :=
    filterMap_append_none rfl
  constructor
  · rw [hserial, haccepts, h.serial, List.length_append, List.length_singleton]
  · rw [acceptedElements_of_some rfl, helement, hdispatches, h.split, hpending, List.append_assoc]
  · rw [hdispatches]
    exact h.started
  · rw [hdispatches, hreleases, hexecuting]
    exact h.handed

/-- The element that is handed out is the one that has waited longest. -/
theorem System.Ordered.dispatch {limit : Nat} {e : Element}
    (h : s.Ordered retries events) (hwell : s.queue.WellFormed limit)
    (hqueue : s.queue.dispatch? limit = some (e, t.queue)) :
    t.Ordered retries (events ++ [.dispatched (some e)]) := by
  have hpending := hwell.pending_dispatch hqueue
  have hexecuting := hwell.executing_dispatch hqueue
  have hserial := hwell.nextSerial_dispatch hqueue
  have haccepts : accepted (events ++ [.dispatched (some e)]) = accepted events :=
    filterMap_append_none rfl
  have hdispatches : dispatched (events ++ [.dispatched (some e)]) = dispatched events ++ [e] :=
    filterMap_append_some rfl
  have hreleases : released (events ++ [.dispatched (some e)]) = released events :=
    filterMap_append_none rfl
  constructor
  · rw [hserial, haccepts, h.serial]
  · rw [acceptedElements_of_none rfl, hdispatches, h.split, hpending, List.map_append,
      List.map_singleton, List.append_assoc, List.singleton_append]
  · rw [hdispatches]
    intro x hx
    rcases List.mem_append.mp hx with hx | hx
    · exact h.started x hx
    · obtain rfl := List.mem_singleton.mp hx
      exact hwell.executing_of_dispatch hqueue
  · rw [hdispatches, hreleases]
    calc t.queue.executing ++ released events
        _ ~ e :: (s.queue.executing ++ released events) := hexecuting.append_right _
        _ ~ e :: dispatched events := h.handed.cons e
        _ ~ dispatched events ++ [e] := (List.perm_append_singleton e _).symm

/-- An element that is removed was handed out, and stays so. -/
theorem System.Ordered.release {limit : Nat} {e : Element}
    (h : s.Ordered retries events) (hwell : s.queue.WellFormed limit)
    (helement : e ∈ s.queue.elements) (hexec : e.executing = true)
    (hqueue : t.queue = s.queue.release e.identifier) :
    t.Ordered retries (events ++ [.executing e (.release e.identifier) ()]) := by
  have hpending := hwell.pending_release helement hexec
  have hexecuting := hwell.executing_release helement hexec
  rw [← hqueue] at hpending hexecuting
  have haccepts : accepted (events ++ [.executing e (.release e.identifier) ()]) =
      accepted events := filterMap_append_none rfl
  have hdispatches : dispatched (events ++ [.executing e (.release e.identifier) ()]) =
      dispatched events := filterMap_append_none rfl
  have hreleases : released (events ++ [.executing e (.release e.identifier) ()]) =
      released events ++ [e] := filterMap_append_some rfl
  constructor
  · rw [hqueue, haccepts, ← h.serial]
    rfl
  · rw [acceptedElements_of_none rfl, hdispatches, h.split, hpending]
  · rw [hdispatches]
    exact h.started
  · rw [hdispatches, hreleases]
    calc t.queue.executing ++ (released events ++ [e])
        _ ~ e :: (t.queue.executing ++ released events) := by
          rw [← List.append_assoc]
          exact List.perm_append_singleton e _
        _ ~ s.queue.executing ++ released events := (hexecuting.append_right _).symm
        _ ~ dispatched events := h.handed

/-- A step keeps the accepted requests in their order. -/
theorem System.Ordered.step (h : s.Ordered config.defaultRetries events)
    (haccounted : s.Accounted config.maxConcurrentJobs.toNat)
    (hchange : Change config s event t) :
    t.Ordered config.defaultRetries (events ++ [event]) := by
  cases hchange with
  | quiet hq _ _ _ _ haccepted hdispatched hreleased =>
    exact h.unseen hq haccepted hdispatched hreleased
  | submit request hq _ _ _ _ =>
    rcases s.queue.submit_cases config.defaultRetries request with heq | ⟨-, heq⟩
    · rw [heq] at hq ⊢
      exact h.unseen hq rfl rfl rfl
    · have hqueue : s.queue.submit config.defaultRetries request = (.accepted, t.queue) := by
        rw [hq, heq]
      rw [heq]
      exact h.accept hqueue
  | dispatch hq _ _ _ _ => exact h.dispatch haccounted.queue hq
  | @release _ e hq hidle _ _ _ =>
    obtain ⟨helement, hexec⟩ := haccounted.mem_executing (hidle ▸ Multiset.mem_cons_self e t.idle)
    exact h.release haccounted.queue helement hexec hq
  | beginAttempt hq _ _ _ _ => exact h.unseen hq rfl rfl rfl
  | endAttempt ending hq _ _ _ _ => exact h.unseen hq rfl rfl rfl

/-- In every run the elements are handed out in the order of acceptance. -/
theorem Reaches.ordered (hrun : Reaches config compares events s) :
    s.Ordered config.normalized.defaultRetries events := by
  induction hrun with
  | start => exact ordered_start _
  | step hrun hstep ih => exact ih.step hrun.accounted (hstep.change hrun.disciplined)

/-- No element is handed out only if no slot is free or no element waits. -/
theorem Step.dispatched_none (hstep : Step config compares s (.dispatched none) t) :
    config.maxConcurrentJobs.toNat ≤ s.queue.inFlight ∨ s.queue.pending = [] := by
  cases hstep with
  | dispatch hperforms =>
    change Performs (Flow.ask (.dispatch config.maxConcurrentJobs.toNat) Flow.done) _ _ _ _ _
      at hperforms
    cases hperforms with
    | ask hanswers =>
      cases hanswers with
      | dispatchNone hnone => exact Queue.dispatch?_eq_none hnone
      | outside h _ _ => cases h

/-- At every moment of every run, the elements that were handed out are the first of the accepted
ones, in the order of acceptance; every accepted element is exactly once among the waiting, the
executing and the removed ones, and nothing else is; and the scheduler hands out nothing only if all
slots are taken or no element waits. Serial numbers are not bounded here. -/
theorem first_come_first_served (hrun : Reaches config compares events s) :
    dispatched events <+: (acceptedElements config.defaultRetries events).map Element.started ∧
      (acceptedElements config.defaultRetries events).Nodup ∧
      s.queue.pending ++ (s.queue.executing ++ released events).map Element.waiting ~
        acceptedElements config.defaultRetries events ∧
      ∀ t, Step config.normalized compares s (.dispatched none) t →
        config.normalized.maxConcurrentJobs.toNat ≤ s.queue.inFlight ∨ s.queue.pending = [] := by
  obtain ⟨-, hsplit, hstarted, hhanded⟩ := hrun.ordered
  change acceptedElements config.defaultRetries events = _ at hsplit
  refine ⟨⟨s.queue.pending.map Element.started, ?_⟩, nodup_acceptedElements _ _, ?_,
    fun t hstep => hstep.dispatched_none⟩
  · have hsame : ((dispatched events).map Element.waiting).map Element.started =
        dispatched events := by
      rw [List.map_map]
      refine (List.map_congr_left fun e he => ?_).trans (List.map_id _)
      exact Element.started_of_executing (hstarted e he)
    rw [hsplit, List.map_append, hsame]
  · calc s.queue.pending ++ (s.queue.executing ++ released events).map Element.waiting
        _ ~ s.queue.pending ++ (dispatched events).map Element.waiting :=
          (hhanded.map _).append_left _
        _ ~ (dispatched events).map Element.waiting ++ s.queue.pending := List.perm_append_comm
        _ ~ acceptedElements config.defaultRetries events := .of_eq hsplit.symm

/-- With one slot, an identifier that is accepted again after its removal waits behind the element
that was accepted in between. -/
theorem first_come_first_served_resubmission : ∃ events s, Reaches {} true events s ∧
    accepted events =
      [microRequest "4be2a1f", microRequest "90c7d3e", microRequest "4be2a1f"] ∧
    dispatched events = [(microElement "4be2a1f" 0).started, (microElement "90c7d3e" 1).started] ∧
    s.queue.pending = [microElement "4be2a1f" 2] ∧
    dispatched events <+: (acceptedElements defaultRetries events).map Element.started := by
  let a := microElement "4be2a1f" 0
  let b := microElement "90c7d3e" 1
  let a' := microElement "4be2a1f" 2
  have hstart : Deployment.Reaches {} true Run.defaultDeadline [] {} := .start
  have hone := hstart.submit (microRequest "4be2a1f") ⟨[a], 0, 1⟩ (unfinished_empty _) rfl
  have htwo := hone.submit (microRequest "90c7d3e") ⟨[a, b], 0, 2⟩ (unfinished_empty _) rfl
  have hadmitted := htwo.handOut a.started ⟨[a.started, b], 1, 2⟩ rfl
  obtain ⟨began, next, hbegan, -, hpanicked, hbeganAccepted, hbeganDispatched⟩ := hadmitted.attempt
  have hended := hbegan.breakDown
  rw [hpanicked rfl] at hended
  have hreleased := hended.giveBack
  have hagain := hreleased.submit (microRequest "4be2a1f") ⟨[b, a'], 0, 3⟩ (unfinished_empty _) rfl
  have hlast := (hagain.handOut b.started ⟨[b.started, a'], 1, 3⟩ rfl).system
  refine ⟨_, _, hlast, ?_, ?_, rfl, (first_come_first_served hlast).1⟩
  · simp only [accepted_append, hbeganAccepted]
    rfl
  · simp only [dispatched_append, hbeganDispatched]
    rfl

end BenchQueue.Scheduling
