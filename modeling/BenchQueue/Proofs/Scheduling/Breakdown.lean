import BenchQueue.Proofs.Scheduling.GivingBack
import BenchQueue.Proofs.Scheduling.Resubmission

/-!
# Executions that break down

If a delay is missing, there are runs in which an execution comes to it: all attempts before it
fail, and what is drawn is what has no delay. The execution then breaks down although nobody gives
it up, and its element stays in the queue with its slot.
-/

namespace BenchQueue.Scheduling

/-- There are answers after which a task breaks down. -/
inductive Breaks {α : Type} : Task α → Prop
  | panic (next : Empty → Task α) : Breaks (Flow.ask .panic next)
  | ask {effect : Effect} {next : effect.Answer → Task α} {answer : effect.Answer}
      (hanswer : Drawn effect () answer ()) (hnext : Breaks (next answer)) :
      Breaks (Flow.ask effect next)

variable {α β : Type} {config : Config} {compares : Bool} {events : List Event} {e : Element}
  {p : RetryPolicy} {q : Queue} {submissions : Multiset (Task (Except Store.Error Submission))}
  {admitted : Multiset Element} {ongoing : Multiset Attempt} {begun : Nat}

/-- A task that may break down may do so whatever comes after it. -/
theorem Breaks.bind {task : Task α} (f : α → Task β) (h : Breaks task) : Breaks (task.bind f) := by
  induction h with
  | panic next => exact .panic _
  | ask hanswer _ ih => exact .ask hanswer ih

/-- A task may break down in what comes after one of its ends. -/
theorem Breaks.after {task : Task α} {f : α → Task β} {a : α} {s t : Unit}
    (hends : task.Ends Drawn s a t) (h : Breaks (f a)) : Breaks (task.bind f) := by
  induction hends with
  | done a s => exact h
  | ask hanswer _ ih => exact .ask hanswer (ih h)

/-! ## Missing delays -/

/-- The wait before an attempt breaks down if the policy has no delay for it. -/
theorem breaks_waitBefore {attempt : UInt32} (h : ¬ HasDelay p attempt) :
    Breaks (waitBefore p attempt) := by
  obtain ⟨x, hx, hnone⟩ : ∃ x, IsDrawn x ∧ p.delay? (fun bound => bound * x) attempt = none := by
    simpa [HasDelay] using h
  unfold waitBefore
  by_cases hjitter : 0.0 < p.jitter
  · rw [if_pos hjitter]
    refine .ask (.draw hx) ?_
    simp only [Flow.bind, hnone]
    exact .panic _
  · have hzero : p.delay? (fun bound => bound * 0.0) attempt = none :=
      (delay?_eq_of_not_lt hjitter _ _ attempt).trans hnone
    simp only [if_neg hjitter, bind, pure, Flow.bind, hzero]
    exact .panic _

/-- Attempts can come to the first delay that is missing. -/
theorem breaks_attempts (budget remaining : Nat) (hle : remaining ≤ budget)
    (hmissing : ¬ HasDelays p budget remaining) : Breaks (attempts p e budget remaining) := by
  induction remaining with
  | zero => exact absurd (fun n hlt hn => absurd hlt (by omega)) hmissing
  | succ remaining ih =>
    rw [hasDelays_succ hle] at hmissing
    rw [attempts_succ]
    by_cases hdelay : HasDelay p (UInt32.ofNat (budget - remaining))
    · have hwaits : (waitBefore p (UInt32.ofNat (budget - remaining))).Achieves Drawn ()
          fun _ _ => True := (waitBefore_achieves_iff _).mpr ⟨hdelay, trivial⟩
      obtain ⟨_, _, hwaited, -⟩ := hwaits.ends
      have hfailed : Drawn (.attempt e.identifier e.configPath) () .panicked () :=
        .other (fun h => Effect.noConfusion h) _
      have hlater : Breaks (attempts p e budget remaining) :=
        ih (by omega) fun hothers => hmissing ⟨hdelay, hothers⟩
      exact .after hwaited (.ask hfailed hlater)
    · exact (breaks_waitBefore hdelay).bind _

/-- An execution may break down if the policy lacks a delay for one of its attempts. -/
theorem breaks_execute (config : Config) (compares : Bool) (seen : Nat)
    (hmissing : ¬ ∀ n, 1 ≤ n → n ≤ e.maxAttempts.toNat →
      HasDelay config.retryPolicy (UInt32.ofNat n)) : Breaks (execute config compares e seen) := by
  refine Breaks.bind _ (breaks_attempts _ _ (Nat.le_refl _) ?_)
  unfold HasDelays
  rw [Nat.sub_self]
  exact hmissing

/-! ## Lost slots -/

/-- The only execution can take the answers after which it breaks down. The queue stays as it is. -/
theorem Reaches.breakDown {task : Task Outcome} {executions : Multiset Execution}
    (hholds : Holds e task) (hbreaks : Breaks task)
    (hrun : Reaches config compares events
      ⟨q, submissions, admitted, executions, ongoing, begun⟩)
    (honly : executions = ⟨e, .running task⟩ ::ₘ 0) :
    ∃ more begun', Reaches config compares (events ++ more)
        ⟨q, submissions, admitted, 0, ongoing, begun'⟩ ∧
      .executionPanicked e ∈ more ∧ ∀ f, .executionAborted f ∉ more := by
  induction hbreaks generalizing events begun executions with
  | panic next => exact ⟨_, _, hrun.step (.breakDown honly), by simp, by simp⟩
  | @ask effect next answer _ hnext ih =>
    cases hholds with
    | release hdone =>
      rw [hdone] at hnext
      cases hnext
    | keep heffect hholds =>
      rcases heffect with houtside | rfl | rfl
      · have hasked := hrun.step (.execute honly (.ask (.outside houtside answer q)))
        obtain ⟨more, begun', hbroken, hpanicked, haborted⟩ := ih (hholds answer) hasked rfl
        rw [List.append_assoc] at hbroken
        refine ⟨_, _, hbroken, List.mem_append_right _ hpanicked, fun f => ?_⟩
        simp [haborted f]
      · exact answer.elim
      -- An attempt begins and ends at once, whatever its end is.
      · have hbegan := hrun.step (.beginAttempt honly)
        have hended := hbegan.step (Step.endOnlyAttempt answer)
        obtain ⟨more, begun', hbroken, hpanicked, haborted⟩ := ih (hholds answer) hended rfl
        rw [List.append_assoc, List.append_assoc] at hbroken
        refine ⟨_, _, hbroken, ?_, fun f => ?_⟩
        · simp [hpanicked]
        · simp [haborted f]

/-- The element of a request that finds the queue empty, as it is handed out. -/
def firstElement (config : Config) (r : Request) : Element :=
  (({} : Queue).elementOf config.defaultRetries r).started

/-- If a delay is missing that an element may come to, there is a run in which its execution breaks
down without being given up. No attempt is in progress then, and the element stays in the queue with
its slot. -/
theorem Reaches.slot_lost (config : Config) (compares : Bool) (r : Request)
    (hmissing : ¬ ∀ n, 1 ≤ n → n ≤ (firstElement config r).maxAttempts.toNat →
      HasDelay config.retryPolicy (UInt32.ofNat n)) :
    ∃ events s, Reaches config compares events s ∧
      .executionPanicked (firstElement config r) ∈ events ∧
      (∀ f, .executionAborted f ∉ events) ∧ s.executions = 0 ∧ s.attempts = 0 ∧
      firstElement config r ∈ s.queue.executing ∧ s.queue.inFlight = 1 := by
  have hstart : Deployment.Reaches config compares Run.defaultDeadline [] {} := .start
  have haccepted := hstart.submit r _ (unfinished_empty r) (submit_empty _ r 0)
  have hlimit := config.one_le_normalized_maxConcurrentJobs
  have hadmitted := (haccepted.handOut _ _ (dispatch?_only hlimit rfl 1)).system
  have honly : (firstElement config r ::ₘ 0 : Multiset Element) = firstElement config r ::ₘ 0 := rfl
  have hbegan := hadmitted.step (.begin 0 honly)
  obtain ⟨more, begun, hbroken, hpanicked, haborted⟩ :=
    Reaches.breakDown (execute_holds _ _ _ _) (breaks_execute _ _ _ hmissing) hbegan rfl
  refine ⟨_, _, hbroken, List.mem_append_right _ hpanicked, fun f => ?_, rfl, rfl, ?_, rfl⟩
  · simp [lookup, haborted f]
  · exact Queue.mem_executing.mpr ⟨List.mem_singleton_self _, rfl⟩

/-- Settings with a factor below zero, as an object. -/
def alternatingJson : Json :=
  .obj [("max_concurrent_jobs", .int 1), ("dispatch_interval", .int 1000),
    ("default_retries", .int 2), ("retry_policy", .obj [("initial_interval", .int 1000),
      ("backoff_coefficient", .int (-1))])]

/-- Waits with alternating signs: the second of them is no duration. -/
def alternating : Config :=
  { maxConcurrentJobs := 1, dispatchInterval := .ofMillis 1000, defaultRetries := 2
    retryPolicy := { initialInterval := .ofMillis 1000, coefficient := -1.0 } }

/-- Settings can be read with which a slot is lost: an execution breaks down without being given up
after its attempts have ended, and its element stays in the queue. -/
theorem slot_not_given_back : ∃ (config : Config) (e : Element) (events : List Event) (s : System),
    Config.ofJson? alternatingJson = some config ∧ Reaches config true events s ∧
      .executionPanicked e ∈ events ∧ (∀ f, .executionAborted f ∉ events) ∧
      s.executions = 0 ∧ s.attempts = 0 ∧ s.queue.contains e.identifier = true ∧
      s.queue.inFlight = 1 := by
  let r : Request := { identifier := { source := "engine", gitRef := "4be2a1f",
                                       benchmarkType := "micro" }
                       configPath := "micro.toml" }
  have hmissing : ¬ ∀ n, 1 ≤ n → n ≤ (firstElement alternating r).maxAttempts.toNat →
      HasDelay alternating.retryPolicy (UInt32.ofNat n) := fun hall => by
    have hthird := hall 3 (by decide) (by decide) 0.0 isDrawn_zero
    exact absurd hthird (by decide +kernel)
  obtain ⟨events, s, hrun, hpanicked, haborted, hexecutions, hattempts, hexecutes, hslot⟩ :=
    Reaches.slot_lost alternating true r hmissing
  refine ⟨alternating, _, events, s, rfl, hrun, hpanicked, haborted, hexecutions, hattempts, ?_,
    hslot⟩
  exact Queue.contains_iff.mpr (List.mem_map_of_mem (Queue.mem_executing.mp hexecutes).1)

end BenchQueue.Scheduling
