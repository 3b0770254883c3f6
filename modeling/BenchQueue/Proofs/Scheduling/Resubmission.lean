import BenchQueue.Proofs.Run.Ends
import BenchQueue.Proofs.Scheduling.Runs

/-!
# Between the lookup and the queue

A submission looks up finished work and asks the queue in two steps. Another submission of the same
request may be accepted, executed and removed in between; the first one is accepted then as well,
although the work is finished. This can happen to every request and with every scheduler.
-/

namespace BenchQueue.Scheduling

/-- A queue that is empty accepts every request. -/
theorem submit_empty (retries : UInt32) (r : Request) (serial : Nat) :
    ({ nextSerial := serial } : Queue).submit retries r =
      (.accepted, { elements := [({ nextSerial := serial } : Queue).elementOf retries r],
                    nextSerial := serial + 1 }) := by
  simp [Queue.submit, Queue.contains]

/-- The element of a request can be handed out if it is the only one. -/
theorem dispatch?_only {limit : Nat} (hlimit : 1 ≤ limit) {e : Element}
    (he : e.executing = false) (serial : Nat) :
    ({ elements := [e], nextSerial := serial } : Queue).dispatch? limit =
      some (e.started, { elements := [e.started], inFlight := 1, nextSerial := serial }) := by
  have hfree : ¬ limit ≤ 0 := by omega
  simp [Queue.dispatch?, Queue.oldestPending?, Queue.pending, Queue.markExecuting, Element.started,
    he, hfree]

/-- The removal of the only element leaves the queue empty and its slot free. -/
theorem release_only (e : Element) (serial : Nat) :
    ({ elements := [e], inFlight := 1, nextSerial := serial } : Queue).release e.identifier =
      { nextSerial := serial } := by
  simp [Queue.release]

/-- The only element of a queue, if nothing else is executed, can be handed out, attempted with success
and removed. -/
theorem Deployment.Reaches.carryOut {config : Config} {compares : Bool} {deadline : Duration}
    {events : List Event} {e : Element} {serial : Nat}
    {submissions : Multiset (Task (Except Store.Error Submission))}
    (hrun : Deployment.Reaches config compares deadline events
      ⟨⟨{ elements := [e], nextSerial := serial }, submissions, 0, 0, 0, 0⟩, {}, 0⟩)
    (he : e.executing = false) :
    ∃ more, Deployment.Reaches config compares deadline (events ++ more)
        ⟨⟨{ nextSerial := serial }, submissions, 0, 0, 0, 1⟩,
          ⟨[Run.stillRecord e.identifier .finished (some default) (some default)]⟩, 0⟩ ∧
      .attemptEnded (attemptAt (e.started, 0)) (.returned (.ok ())) ∈ more := by
  have hlimit := config.one_le_normalized_maxConcurrentJobs
  have hadmitted := hrun.handOut _ _ (dispatch?_only hlimit he serial)
  obtain ⟨began, next, hbegan, hsucceeded, -⟩ := hadmitted.attempt
  have hends : (Run.executeFile deadline e.identifier e.configPath).Ends Run.Accepts {} (.ok ()) _ :=
    Run.executed_ends deadline e.identifier e.configPath (.ok ())
  have hended := (hbegan.work hends).endAttempt
  rw [hsucceeded] at hended
  obtain ⟨more, hfinished⟩ := hended.finish
  have hreleased : ({ elements := [e.started], inFlight := 1, nextSerial := serial } : Queue).release
      e.started.identifier = { nextSerial := serial } := release_only _ _
  rw [hreleased, List.append_assoc, List.append_assoc, List.append_assoc] at hfinished
  exact ⟨_, hfinished, by simp⟩

/-- A request can be accepted when its work is finished. -/
theorem finished_work_accepted (config : Config) (compares : Bool) (deadline : Duration)
    (r : Request) : ∃ events d,
      Deployment.Reaches config compares deadline
        (events ++ [.submitting (.enqueue config.defaultRetries r) .accepted]) d ∧
      ∃ record ∈ d.memory.records, record.status = .finished ∧
        (Run.Filter.forIdentifier r.identifier).accepts record = true := by
  have hstart : Deployment.Reaches config compares deadline [] {} := .start
  -- Two submissions of the request have been looked up before the queue is asked for either.
  have hlooked := (hstart.look (unfinished_empty r)).look (unfinished_empty r)
  have haccepted := hlooked.accept (submit_empty _ r 0)
  -- The element of one of them is executed with success and removed.
  obtain ⟨_, hfinished, -⟩ := haccepted.carryOut rfl
  rw [Multiset.cons_swap] at hfinished
  -- The other one goes on with what its lookup has answered.
  have hagain := hfinished.accept (submit_empty _ r 1)
  exact ⟨_, _, hagain, _, List.mem_singleton_self _, rfl, Run.Filter.forIdentifier_matchesIdentifier _⟩

end BenchQueue.Scheduling
