import BenchQueue.Proofs.Run.Recording
import BenchQueue.Proofs.Scheduling.Change
import BenchQueue.Proofs.Scheduling.Deployment
import BenchQueue.Proofs.Scheduling.Queue

/-!
# Runs that exist

A run can be continued in many ways: a request can be looked up and then queued, a free slot can be
taken, an element that was handed out can be attempted, the run of an attempt can go on to any of its
ends, and the only attempt in progress can lead to the end of its element.
-/

namespace BenchQueue.Scheduling

open BenchQueue.Store (Memory)

/-- A request for a micro benchmark of a commit, to be attempted once. -/
def microRequest (gitRef : String) : Request :=
  { identifier := { source := "engine", gitRef, benchmarkType := "micro" }
    configPath := "micro.toml", retry := some 0 }

/-- The element of such a request. -/
def microElement (gitRef : String) (serial : Nat) : Element :=
  { microRequest gitRef with retry := 0, executing := false, serial }

/-- The rest of a submission that found no finished work. -/
def enqueueing (config : Config) (r : Request) : Task (Except Store.Error Submission) :=
  Flow.ask (.enqueue config.defaultRetries r) fun submission => .done (.ok submission)

/-- What is seen while a request is looked up and no finished work is found. -/
def lookup (r : Request) : List Event :=
  [.called r,
    .submitting (.store (.exists_ (.forIdentifier r.identifier) .finished)) (Except.ok false)]

/-- No finished record is about the work of a request. -/
def Unfinished (r : Request) (m : Memory) : Prop :=
  ∀ record ∈ m.records, record.status = .finished →
    (Run.Filter.forIdentifier r.identifier).accepts record = false

/-- The removal of an element at the end of its execution. -/
def givingBack (e : Element) (outcome : Outcome) : Task Outcome :=
  Flow.ask (.release e.identifier) fun _ => .done outcome

/-- What is left of an execution once an attempt has succeeded. -/
def finishing (compares : Bool) (e : Element) (seen number : Nat) : Task Outcome :=
  (startComparison compares e seen).bind fun _ => givingBack e (.succeeded number)

variable {config : Config} {compares : Bool} {deadline : Duration} {events : List Event}
  {q q' : Queue} {submissions : Multiset (Task (Except Store.Error Submission))}
  {admitted : Multiset Element} {executions : Multiset Execution} {attempts : Multiset Attempt}
  {begun : Nat} {m m' : Memory} {runs : Multiset (Nat × Task (Except Run.Error Unit))}
  {e : Element} {r : Request}

/-- Without records no work is finished. -/
theorem unfinished_empty (r : Request) : Unfinished r {} :=
  fun _ hrecord => absurd hrecord List.not_mem_nil

/-- The store finds no finished record for unfinished work. -/
theorem answer_of_unfinished (h : Unfinished r m) :
    m.answer (.exists_ (.forIdentifier r.identifier) .finished) = (.ok false, m) := by
  have hany : m.records.any (fun record => record.status = .finished &&
      (Run.Filter.forIdentifier r.identifier).accepts record) = false := by
    rw [List.any_eq_false]
    intro record hrecord
    by_cases hfinished : record.status = .finished
    · simp [h record hrecord hfinished]
    · simp [hfinished]
  simp only [Memory.answer, hany]

/-- Every element is attempted once at least. -/
theorem one_le_maxAttempts (e : Element) : 1 ≤ e.maxAttempts.toNat := by
  unfold Element.maxAttempts
  split
  · rename_i hretry
    rw [hretry]
    decide
  · rename_i hretry
    have hne : e.retry.toNat ≠ 4294967295 := fun hmax => hretry (UInt32.toNat_inj.mp hmax)
    have hlt := e.retry.toNat_lt
    rw [UInt32.toNat_add]
    change 1 ≤ (e.retry.toNat + 1) % 4294967296
    omega

/-- There is no wait before the first attempt. -/
theorem waitBefore_one (p : RetryPolicy) :
    waitBefore p 1 =
      if 0.0 < p.jitter then Flow.ask Effect.draw fun _ => .done () else .done () := by
  unfold waitBefore
  split <;> rfl

/-- An execution starts with its first attempt, which is also the last one if it succeeds or if
there may be no other. -/
theorem execute_eq (config : Config) (compares : Bool) (e : Element) (seen : Nat) :
    ∃ next, execute config compares e seen = (waitBefore config.retryPolicy 1).bind (fun _ =>
        Flow.ask (.attempt e.identifier e.configPath) next) ∧
      next (.returned (.ok ())) = finishing compares e seen 1 ∧
      (e.maxAttempts.toNat = 1 → next .panicked = givingBack e (.exhausted 1)) := by
  obtain ⟨n, hn⟩ := Nat.exists_eq_add_of_le' (one_le_maxAttempts e)
  have hone : n + 1 - n = 1 := by omega
  unfold execute
  simp only [hn, Scheduling.attempts, hone, bind, Flow.bind_assoc]
  refine ⟨_, rfl, rfl, fun hlast => ?_⟩
  obtain rfl : n = 0 := by omega
  rfl

/-- What a store in memory answers when it fails nothing is an answer that the store may give. -/
theorem replies_of_accepts {effect : Effect} {answer : effect.Answer}
    (h : Run.Accepts effect m answer m') : Replies effect m answer m' := by
  cases h with
  | @store call _ _ _ hanswer =>
    have hreplies := Replies.store call m
    rw [hanswer] at hreplies
    exact hreplies
  | other hother _ _ => exact .other hother _ _

/-- The end of its attempt resumes the only execution. -/
theorem Step.endOnlyAttempt {number : Nat} {next : AttemptEnd → Task Outcome} (ending : AttemptEnd) :
    Step config compares
      ⟨q, submissions, admitted, ⟨e, .awaiting number next⟩ ::ₘ 0, attemptAt (e, number) ::ₘ attempts,
        begun⟩
      (.attemptEnded (attemptAt (e, number)) ending)
      ⟨q, submissions, admitted, ⟨e, .running (next ending)⟩ ::ₘ 0, attempts, begun⟩ := by
  have hended : Step config compares
      ⟨q, submissions, admitted, ⟨e, .awaiting number next⟩ ::ₘ 0, attemptAt (e, number) ::ₘ attempts,
        begun⟩
      (.attemptEnded (attemptAt (e, number)) ending) _ := .endAttempt ending rfl
  have hresume : ((⟨e, .awaiting number next⟩ ::ₘ 0 : Multiset Execution)).map
      (·.resume (attemptAt (e, number)).number ending) = ⟨e, .running (next ending)⟩ ::ₘ 0 := by
    simp [Execution.resume, attemptAt]
  rwa [hresume] at hended

/-! ## Steps without a call -/

/-- What can be seen on the way from one state to another while no request is called. -/
inductive Deployment.Leads (config : Config) (compares : Bool) (deadline : Duration) (d : Deployment) :
    List Event → Deployment → Prop
  | refl : Leads config compares deadline d [] d
  | step {events : List Event} {d' d'' : Deployment} {event : Option Event}
      (hleads : Leads config compares deadline d events d')
      (hstep : Deployment.Step config.normalized compares deadline d' event d'')
      (hcalled : ∀ r, event ≠ some (.called r)) :
      Leads config compares deadline d (events ++ event.toList) d''

/-- A run may go on with what leads further. -/
theorem Deployment.Reaches.trans {more : List Event} {d d' : Deployment}
    (hrun : Deployment.Reaches config compares deadline events d)
    (h : Deployment.Leads config compares deadline d more d') :
    Deployment.Reaches config compares deadline (events ++ more) d' := by
  induction h with
  | refl => rwa [List.append_nil]
  | step _ hstep _ ih =>
    rw [← List.append_assoc]
    exact ih.step hstep

namespace Deployment.Leads

/-- A free slot can be taken by the oldest waiting element. -/
theorem handOut
    (hqueue : q.dispatch? config.normalized.maxConcurrentJobs.toNat = some (e, q')) :
    Leads config compares deadline
      ⟨⟨q, submissions, admitted, executions, attempts, begun⟩, m, runs⟩ [.dispatched (some e)]
      ⟨⟨q', submissions, e ::ₘ admitted, executions, attempts, begun⟩, m, runs⟩ :=
  refl.step (.schedule (.dispatch (.ask (.dispatch hqueue))) rfl) (by simp)

/-- An element that was handed out can be attempted. -/
theorem attempt : ∃ more next,
    Leads config compares deadline
        ⟨⟨q, submissions, e ::ₘ admitted, executions, attempts, begun⟩, m, runs⟩ more
        ⟨⟨q, submissions, admitted, ⟨e, .awaiting begun next⟩ ::ₘ executions,
          attemptAt (e, begun) ::ₘ attempts, begun + 1⟩, m,
          (begun, Run.executeFile deadline e.identifier e.configPath) ::ₘ runs⟩ ∧
      (∀ a ending, .attemptEnded a ending ∉ more) ∧
      next (.returned (.ok ())) = finishing compares e 0 1 ∧
      (e.maxAttempts.toNat = 1 → next .panicked = givingBack e (.exhausted 1)) ∧
      accepted more = [] ∧ dispatched more = [] := by
  obtain ⟨next, hexecute, hsucceeded, hpanicked⟩ := execute_eq config.normalized compares e 0
  have hstart : Leads config compares deadline
      ⟨⟨q, submissions, e ::ₘ admitted, executions, attempts, begun⟩, m, runs⟩ [] _ := .refl
  have hbegun := hstart.step (.schedule (.begin 0 rfl) rfl) (by simp)
  rw [hexecute, waitBefore_one] at hbegun
  split at hbegun
  · have hdraw : Answers Effect.draw q (0.0 : Float) q := .outside rfl _ _
    have hdrawn := hbegun.step
      (.schedule (.execute rfl (.ask hdraw)) (.other (fun _ => Effect.noConfusion) _ _)) (by simp)
    have hattempt := hdrawn.step (.beginAttempt (.beginAttempt rfl)) (by simp)
    exact ⟨_, next, hattempt, by simp, hsucceeded, hpanicked, rfl, rfl⟩
  · have hattempt := hbegun.step (.beginAttempt (.beginAttempt rfl)) (by simp)
    exact ⟨_, next, hattempt, by simp, hsucceeded, hpanicked, rfl, rfl⟩

/-- The run of an attempt can go on to any of its ends. -/
theorem work {d : Deployment} {system : System} {number : Nat} {run : Task (Except Run.Error Unit)}
    {result : Except Run.Error Unit} (hends : run.Ends Run.Accepts m result m')
    (h : Leads config compares deadline d events ⟨system, m, (number, run) ::ₘ runs⟩) :
    Leads config compares deadline d events ⟨system, m', (number, .done result) ::ₘ runs⟩ := by
  induction hends with
  | done result m => exact h
  | ask hanswer _ ih =>
    have hstep := h.step (.work rfl (replies_of_accepts hanswer)) (by simp)
    rw [Option.toList_none, List.append_nil] at hstep
    exact ih hstep

/-- An attempt can break down at any point of its run. -/
theorem breakDown {number : Nat} {next : AttemptEnd → Task Outcome}
    {run : Task (Except Run.Error Unit)} :
    Leads config compares deadline
      ⟨⟨q, submissions, admitted, ⟨e, .awaiting number next⟩ ::ₘ 0, attemptAt (e, number) ::ₘ attempts,
        begun⟩, m, (number, run) ::ₘ runs⟩
      [.attemptEnded (attemptAt (e, number)) .panicked]
      ⟨⟨q, submissions, admitted, ⟨e, .running (next .panicked)⟩ ::ₘ 0, attempts, begun⟩, m, runs⟩ :=
  refl.step (.breakDown rfl (Step.endOnlyAttempt .panicked)) (by simp)

/-- An execution can remove its element and end. -/
theorem giveBack {outcome : Outcome} :
    Leads config compares deadline
      ⟨⟨q, submissions, admitted, ⟨e, .running (givingBack e outcome)⟩ ::ₘ executions, attempts, begun⟩,
        m, runs⟩
      [.executing e (.release e.identifier) (), .executionEnded e outcome]
      ⟨⟨q.release e.identifier, submissions, admitted, executions, attempts, begun⟩, m, runs⟩ := by
  have hstart : Leads config compares deadline
      ⟨⟨q, submissions, admitted, ⟨e, .running (givingBack e outcome)⟩ ::ₘ executions, attempts, begun⟩,
        m, runs⟩ [] _ := .refl
  have hreleased := hstart.step (.schedule (.execute rfl (.ask (.release e.identifier q)))
    (.other (fun _ => Effect.noConfusion) _ _)) (by simp)
  exact hreleased.step (.schedule (.finish rfl) rfl) (by simp)

end Deployment.Leads

namespace Deployment.Reaches

/-! ## Submissions -/

/-- A request whose work is not finished is looked up without a result. -/
theorem look
    (hrun : Reaches config compares deadline events
      ⟨⟨q, submissions, admitted, executions, attempts, begun⟩, m, runs⟩)
    (h : Unfinished r m) :
    Reaches config compares deadline (events ++ lookup r)
      ⟨⟨q, enqueueing config.normalized r ::ₘ submissions, admitted, executions, attempts, begun⟩,
        m, runs⟩ := by
  have hreplies := Replies.store (.exists_ (.forIdentifier r.identifier) .finished) m
  rw [answer_of_unfinished h] at hreplies
  have hanswers : Answers (.store (.exists_ (.forIdentifier r.identifier) .finished)) q
      (Except.ok false) q := .outside rfl _ _
  have hcalled := hrun.step (.schedule (.call _ r) rfl)
  have hlooked := hcalled.step (.schedule (.submit rfl (.ask hanswers)) hreplies)
  rw [List.append_assoc] at hlooked
  exact hlooked

/-- A request that was looked up is accepted if the queue has no element with its identifier. -/
theorem accept
    (hrun : Reaches config compares deadline events
      ⟨⟨q, enqueueing config.normalized r ::ₘ submissions, admitted, executions, attempts, begun⟩,
        m, runs⟩)
    (hqueue : q.submit config.normalized.defaultRetries r = (.accepted, q')) :
    Reaches config compares deadline
      (events ++ [.submitting (.enqueue config.normalized.defaultRetries r) .accepted])
      ⟨⟨q', Flow.done (.ok .accepted) ::ₘ submissions, admitted, executions, attempts, begun⟩,
        m, runs⟩ := by
  have henqueue := Answers.enqueue config.normalized.defaultRetries r q
  rw [hqueue] at henqueue
  exact hrun.step (.schedule (.submit rfl (.ask henqueue))
    (.other (fun _ => Effect.noConfusion) _ _))

/-- A request can be looked up and accepted with nothing in between. -/
theorem submit
    (hrun : Reaches config compares deadline events
      ⟨⟨q, submissions, admitted, executions, attempts, begun⟩, m, runs⟩)
    (r : Request) (q' : Queue) (h : Unfinished r m)
    (hqueue : q.submit config.normalized.defaultRetries r = (.accepted, q')) :
    Reaches config compares deadline
      (events ++ lookup r ++ [.submitting (.enqueue config.normalized.defaultRetries r) .accepted])
      ⟨⟨q', Flow.done (.ok .accepted) ::ₘ submissions, admitted, executions, attempts, begun⟩,
        m, runs⟩ :=
  (hrun.look h).accept hqueue

/-- A free slot can be taken by the oldest waiting element. -/
theorem handOut
    (hrun : Reaches config compares deadline events
      ⟨⟨q, submissions, admitted, executions, attempts, begun⟩, m, runs⟩)
    (e : Element) (q' : Queue)
    (hqueue : q.dispatch? config.normalized.maxConcurrentJobs.toNat = some (e, q')) :
    Reaches config compares deadline (events ++ [.dispatched (some e)])
      ⟨⟨q', submissions, e ::ₘ admitted, executions, attempts, begun⟩, m, runs⟩ :=
  hrun.trans (.handOut hqueue)

/-! ## Attempts -/

/-- An element that was handed out can be attempted. -/
theorem attempt
    (hrun : Reaches config compares deadline events
      ⟨⟨q, submissions, e ::ₘ admitted, executions, attempts, begun⟩, m, runs⟩) :
    ∃ more next, Reaches config compares deadline (events ++ more)
        ⟨⟨q, submissions, admitted, ⟨e, .awaiting begun next⟩ ::ₘ executions,
          attemptAt (e, begun) ::ₘ attempts, begun + 1⟩, m,
          (begun, Run.executeFile deadline e.identifier e.configPath) ::ₘ runs⟩ ∧
      next (.returned (.ok ())) = finishing compares e 0 1 ∧
      (e.maxAttempts.toNat = 1 → next .panicked = givingBack e (.exhausted 1)) ∧
      accepted more = [] ∧ dispatched more = [] := by
  obtain ⟨more, next, hleads, -, hnext⟩ := Leads.attempt
  exact ⟨more, next, hrun.trans hleads, hnext⟩

/-- The run of an attempt can go on to any of its ends. -/
theorem work {system : System} {number : Nat} {run : Task (Except Run.Error Unit)}
    {result : Except Run.Error Unit} (hends : run.Ends Run.Accepts m result m')
    (hrun : Reaches config compares deadline events ⟨system, m, (number, run) ::ₘ runs⟩) :
    Reaches config compares deadline events ⟨system, m', (number, .done result) ::ₘ runs⟩ := by
  have hleads := hrun.trans (Leads.refl.work hends)
  rwa [List.append_nil] at hleads

/-! ## Ends of executions -/

variable {number : Nat} {next : AttemptEnd → Task Outcome}

/-- The result of its attempt resumes the only execution. -/
theorem endAttempt {result : Except Run.Error Unit}
    (hrun : Reaches config compares deadline events
      ⟨⟨q, submissions, admitted, ⟨e, .awaiting number next⟩ ::ₘ 0, attemptAt (e, number) ::ₘ attempts,
        begun⟩, m, (number, .done result) ::ₘ runs⟩) :
    Reaches config compares deadline
      (events ++ [.attemptEnded (attemptAt (e, number)) (.returned result)])
      ⟨⟨q, submissions, admitted, ⟨e, .running (next (.returned result))⟩ ::ₘ 0, attempts, begun⟩, m,
        runs⟩ :=
  hrun.step (.endAttempt rfl (Step.endOnlyAttempt (.returned result)))

/-- An attempt can break down at any point of its run. -/
theorem breakDown {run : Task (Except Run.Error Unit)}
    (hrun : Reaches config compares deadline events
      ⟨⟨q, submissions, admitted, ⟨e, .awaiting number next⟩ ::ₘ 0, attemptAt (e, number) ::ₘ attempts,
        begun⟩, m, (number, run) ::ₘ runs⟩) :
    Reaches config compares deadline (events ++ [.attemptEnded (attemptAt (e, number)) .panicked])
      ⟨⟨q, submissions, admitted, ⟨e, .running (next .panicked)⟩ ::ₘ 0, attempts, begun⟩, m, runs⟩ :=
  hrun.trans .breakDown

/-- An execution can be given up. -/
theorem abort {x : Execution}
    (hrun : Reaches config compares deadline events
      ⟨⟨q, submissions, admitted, x ::ₘ executions, attempts, begun⟩, m, runs⟩) :
    Reaches config compares deadline (events ++ [.executionAborted x.element])
      ⟨⟨q, submissions, admitted, executions, attempts, begun⟩, m, runs⟩ :=
  hrun.step (.schedule (.abort rfl) rfl)

/-- An execution can remove its element and end. -/
theorem giveBack {outcome : Outcome}
    (hrun : Reaches config compares deadline events
      ⟨⟨q, submissions, admitted, ⟨e, .running (givingBack e outcome)⟩ ::ₘ executions, attempts, begun⟩,
        m, runs⟩) :
    Reaches config compares deadline
      (events ++ [.executing e (.release e.identifier) (), .executionEnded e outcome])
      ⟨⟨q.release e.identifier, submissions, admitted, executions, attempts, begun⟩, m, runs⟩ :=
  hrun.trans .giveBack

/-- An execution can end after a successful attempt. -/
theorem finish {seen : Nat}
    (hrun : Reaches config compares deadline events
      ⟨⟨q, submissions, admitted, ⟨e, .running (finishing compares e seen number)⟩ ::ₘ executions,
        attempts, begun⟩, m, runs⟩) :
    ∃ more, Reaches config compares deadline (events ++ more)
      ⟨⟨q.release e.identifier, submissions, admitted, executions, attempts, begun⟩, m, runs⟩ := by
  unfold finishing startComparison at hrun
  split at hrun
  · have hcompared := hrun.step (.schedule (.execute rfl (.ask (.outside rfl () q)))
      (.other (fun _ => Effect.noConfusion) _ _))
    have hfinished := giveBack hcompared
    rw [List.append_assoc] at hfinished
    exact ⟨_, hfinished⟩
  · exact ⟨_, giveBack hrun⟩

end Deployment.Reaches

end BenchQueue.Scheduling
