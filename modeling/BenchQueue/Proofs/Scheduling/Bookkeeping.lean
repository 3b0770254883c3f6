import BenchQueue.Proofs.Scheduling.GivingBack
import BenchQueue.Proofs.Scheduling.Order

/-!
# The books of the queue

In every run the queue finds each of its elements by its own identifier, the slots taken are those of
the executing elements, and the serial numbers are distinct and count the acceptances. A removal gives a
slot back that was taken. A submission leaves the queue as it is unless it is accepted, and then it adds
its element and does nothing else.
-/

namespace BenchQueue.Scheduling

variable {config : Config} {compares : Bool} {events : List Event} {s t : System} {limit : Nat}
  {e : Element} {i : Run.Identifier} {q : Queue}

/-! ## Elements -/

/-- A lookup finds the element that has the identifier. -/
theorem Queue.WellFormed.find?_eq_some_iff (hq : q.WellFormed limit) :
    q.find? i = some e ↔ e ∈ q.elements ∧ e.identifier = i := by
  constructor
  · intro h
    have hkey : e.identifier = i := by simpa using List.find?_some h
    exact ⟨List.mem_of_find?_eq_some h, hkey⟩
  · rintro ⟨hmem, rfl⟩
    cases hfind : q.find? e.identifier with
    | none =>
      have hother := List.find?_eq_none.mp hfind e hmem
      simp at hother
    | some f =>
      have hkey : f.identifier = e.identifier := by simpa using List.find?_some hfind
      have hf : f ∈ q.elements := List.mem_of_find?_eq_some hfind
      rw [List.inj_on_of_nodup_map hq.keys hf hmem hkey]

/-- No two elements have the same serial number. -/
theorem Queue.WellFormed.nodup_serials (hq : q.WellFormed limit) :
    (q.elements.map (·.serial)).Nodup :=
  List.pairwise_map.mpr (hq.order.imp Nat.ne_of_lt)

/-! ## Removals -/

/-- A removal gives the slot of an executing element back. -/
theorem Step.inFlight_of_release (hstep : Step config compares s (.executing e (.release i) ()) t)
    (hdisciplined : s.Disciplined config) (haccounted : s.Accounted limit) :
    t.queue.inFlight + 1 = s.queue.inFlight := by
  obtain ⟨hqueue, hidle⟩ : t.queue = s.queue.release e.identifier ∧ e ∈ s.idle := by
    cases hstep.change hdisciplined with
    | quiet _ _ _ _ _ _ _ hreleased => cases hreleased
    | release hqueue hidle _ _ _ => exact ⟨hqueue, hidle ▸ Multiset.mem_cons_self e t.idle⟩
  have hslot : HasSlot limit e s.queue :=
    ⟨haccounted.queue, Queue.mem_executing.mpr (haccounted.mem_executing hidle)⟩
  rw [hqueue]
  exact hslot.release.freed

/-! ## Submissions -/

/-- The answers to a submission among other tasks: each of its requests is answered with the queue of
that moment, and before the next one other tasks may change the queue in any way. The queues before and
after each answer are kept. -/
def Amid : Flow.Surroundings Effects (Queue × List (Queue × Queue)) :=
  fun effect before answer after =>
    ∃ q, Answers effect before.1 answer q ∧ after.2 = before.2 ++ [(before.1, q)]

/-- What a submission with a result has done to the queue at each of its requests: nothing unless it was
accepted, and then it has added its element and taken the next serial number with its last one. -/
structure Submitted (retries : UInt32) (r : Request) (result : Except Store.Error Submission)
    (steps : List (Queue × Queue)) : Prop where
  refused : result ≠ .ok .accepted → ∀ step ∈ steps, step.2 = step.1
  accepted : result = .ok .accepted → ∃ first last : Queue, last.contains r.identifier = false ∧
    steps = [(first, first), (last, { last with
      elements := last.elements ++ [last.elementOf retries r],
      nextSerial := last.nextSerial + 1 })]

/-- One request among other tasks: what comes after it starts with any queue. -/
theorem achieves_amid {α : Type} {effect : Effect} {next : effect.Answer → Task α}
    {steps : List (Queue × Queue)} {Q : α → Queue × List (Queue × Queue) → Prop}
    (hsome : ∃ answer q', Answers effect q answer q')
    (h : ∀ answer q' later, Answers effect q answer q' →
      (next answer).Achieves Amid (later, steps ++ [(q, q')]) Q) :
    (Flow.ask effect next : Task α).Achieves Amid (q, steps) Q := by
  obtain ⟨answer, q', hanswer⟩ := hsome
  refine ⟨⟨answer, (q', steps ++ [(q, q')]), q', hanswer, rfl⟩, ?_⟩
  rintro answer ⟨later, _⟩ ⟨q', hanswer, rfl⟩
  exact h answer q' later hanswer

/-- A submission ends, and it changes the queue only if it is accepted. -/
theorem submit_amid (config : Config) (r : Request) (q : Queue) :
    (submit config r).Achieves Amid (q, []) fun result after =>
      Submitted config.defaultRetries r result after.2 := by
  refine achieves_amid ⟨.ok false, q, .outside rfl _ _⟩ fun reply q' last hlooked => ?_
  obtain rfl := hlooked.queue_eq rfl
  cases reply with
  | error cause => exact ⟨fun _ => by simp, nofun⟩
  | ok finished =>
    cases finished with
    | true => exact ⟨fun _ => by simp, nofun⟩
    | false =>
      -- The request is queued in whatever the queue has become since the lookup.
      refine achieves_amid ⟨_, _, .enqueue _ r last⟩ fun submission queue _ hqueued => ?_
      cases hqueued with
      | outside h _ _ => cases h
      | enqueue _ _ _ =>
        rcases last.submit_cases config.defaultRetries r with heq | ⟨hnew, heq⟩
        · rw [heq]
          exact ⟨fun _ => by simp, nofun⟩
        · rw [heq]
          refine ⟨fun h => absurd rfl h, fun _ => ⟨q', last, ?_, rfl⟩⟩
          rwa [← Bool.not_eq_true, Queue.contains_iff]

/-- In every run each element is found by its own identifier and by no other, the slots taken are as
many as the executing elements and at most as many as the normalized setting allows, each removal gives
one of them back, and the serial numbers are distinct and below the next one, which counts the
acceptances. A submission that is refused or fails leaves the queue as it is at each of its requests,
and one that is accepted adds its element and takes the next serial number, whatever other tasks do in
between. -/
theorem queue_bookkeeping (hrun : Reaches config compares events s) :
    (∀ i e, s.queue.find? i = some e ↔ e ∈ s.queue.elements ∧ e.identifier = i) ∧
    s.queue.inFlight = (s.queue.elements.filter (·.executing)).length ∧
    s.queue.inFlight ≤ config.normalized.maxConcurrentJobs.toNat ∧
    (∀ e i t, Step config.normalized compares s (.executing e (.release i) ()) t →
      t.queue.inFlight + 1 = s.queue.inFlight) ∧
    (s.queue.elements.map (·.serial)).Nodup ∧
    (∀ e ∈ s.queue.elements, e.serial < s.queue.nextSerial) ∧
    s.queue.nextSerial = (accepted events).length ∧
    ∀ r q, (submit config.normalized r).Achieves Amid (q, []) fun result after =>
      Submitted config.normalized.defaultRetries r result after.2 := by
  have haccounted := hrun.accounted
  have hqueue := haccounted.queue
  refine ⟨fun i e => hqueue.find?_eq_some_iff, hqueue.slots, hqueue.ceiling, fun e i t hstep => ?_,
    hqueue.nodup_serials, hqueue.fresh, hrun.ordered.serial, submit_amid config.normalized⟩
  exact hstep.inFlight_of_release hrun.disciplined haccounted

/-- With two slots, an element whose execution was given up still takes one while another element
waits. -/
theorem queue_bookkeeping_given_up : ∃ events s,
    Reaches { maxConcurrentJobs := 2 } true events s ∧ s.executions = 0 ∧
      s.queue.elements = [(microElement "4be2a1f" 0).started, microElement "90c7d3e" 1] ∧
      s.queue.inFlight = 1 ∧ s.queue.inFlight = (s.queue.elements.filter (·.executing)).length ∧
      s.queue.find? (microElement "4be2a1f" 0).identifier =
        some (microElement "4be2a1f" 0).started ∧
      s.queue.nextSerial = (accepted events).length := by
  let a := microElement "4be2a1f" 0
  let b := microElement "90c7d3e" 1
  have hstart : Deployment.Reaches { maxConcurrentJobs := 2 } true Run.defaultDeadline [] {} := .start
  have hone := hstart.submit (microRequest "4be2a1f") ⟨[a], 0, 1⟩ (unfinished_empty _) rfl
  have htwo := hone.submit (microRequest "90c7d3e") ⟨[a, b], 0, 2⟩ (unfinished_empty _) rfl
  have hadmitted := htwo.handOut a.started ⟨[a.started, b], 1, 2⟩ rfl
  obtain ⟨_, _, hbegan, -⟩ := hadmitted.attempt
  have hgivenUp := hbegan.abort.system
  obtain ⟨hfind, hslots, -, -, -, -, hserials, -⟩ := queue_bookkeeping hgivenUp
  exact ⟨_, _, hgivenUp, rfl, rfl, rfl, hslots, (hfind _ _).mpr ⟨List.mem_cons_self, rfl⟩, hserials⟩

end BenchQueue.Scheduling
