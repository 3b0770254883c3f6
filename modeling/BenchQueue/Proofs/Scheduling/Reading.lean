import BenchQueue.Proofs.Scheduling.Deployment
import BenchQueue.Proofs.Scheduling.Holding

/-!
# Who leaves the records alone

A submission looks finished work up, and an execution does not ask the store at all. So the steps of a
scheduler change no record: only the runs of attempts write.
-/

namespace BenchQueue.Scheduling

open BenchQueue.Store (Memory)

variable {config : Config} {compares : Bool} {s t : System} {event : Event} {m m' : Memory}
  {P : Effect → Prop}

/-! ## What the tasks of a system may still ask -/

/-- Whatever the answers are, every request that is left of an execution satisfies a condition. -/
def Execution.Asks (P : Effect → Prop) (x : Execution) : Prop :=
  match x.work with
  | .running rest => rest.Asks P
  | .awaiting _ next => ∀ ending, (next ending).Asks P

/-- Every request that is left of the submissions and executions satisfies a condition. -/
structure System.Asks (P : Effect → Prop) (s : System) : Prop where
  submissions : ∀ task ∈ s.submissions, task.Asks P
  executions : ∀ x ∈ s.executions, x.Asks P

/-- A system without tasks asks nothing. -/
theorem asks_start (P : Effect → Prop) : ({} : System).Asks P :=
  { submissions := fun _ hmem => absurd hmem (Multiset.notMem_zero _)
    executions := fun _ hmem => absurd hmem (Multiset.notMem_zero _) }

/-- The end of an attempt leaves an execution no other requests than it had. -/
theorem Execution.Asks.resume {x : Execution} (hx : x.Asks P) (number : Nat) (ending : AttemptEnd) :
    (x.resume number ending).Asks P := by
  obtain ⟨element, work⟩ := x
  cases work with
  | running rest => exact hx
  | awaiting attempt next =>
    by_cases hnumber : attempt = number
    · simp only [Execution.resume, if_pos hnumber]
      exact hx ending
    · simp only [Execution.resume, if_neg hnumber]
      exact hx

/-- What every new submission and execution may ask is all that is ever asked. -/
theorem System.Asks.step (h : s.Asks P) (hsubmit : ∀ r, (submit config r).Asks P)
    (hexecute : ∀ e seen, (execute config compares e seen).Asks P)
    (hstep : Step config compares s event t) : t.Asks P := by
  obtain ⟨hsubmissions, hexecutions⟩ := h
  cases hstep with
  | call request => exact ⟨Multiset.forall_mem_cons.mpr ⟨hsubmit request, hsubmissions⟩, hexecutions⟩
  | submit htask hperforms =>
    rw [htask, Multiset.forall_mem_cons] at hsubmissions
    refine ⟨Multiset.forall_mem_cons.mpr ⟨?_, hsubmissions.2⟩, hexecutions⟩
    cases hperforms with
    | ask _ => exact hsubmissions.1.2 _
  | dispatch _ => exact ⟨hsubmissions, hexecutions⟩
  | begin seen _ =>
    exact ⟨hsubmissions, Multiset.forall_mem_cons.mpr ⟨hexecute _ seen, hexecutions⟩⟩
  | execute htask hperforms =>
    rw [htask, Multiset.forall_mem_cons] at hexecutions
    refine ⟨hsubmissions, Multiset.forall_mem_cons.mpr ⟨?_, hexecutions.2⟩⟩
    cases hperforms with
    | ask _ => exact hexecutions.1.2 _
  | beginAttempt htask =>
    rw [htask, Multiset.forall_mem_cons] at hexecutions
    exact ⟨hsubmissions, Multiset.forall_mem_cons.mpr ⟨hexecutions.1.2, hexecutions.2⟩⟩
  | endAttempt ending _ =>
    refine ⟨hsubmissions, fun x hx => ?_⟩
    obtain ⟨y, hy, rfl⟩ := Multiset.mem_map.mp hx
    exact (hexecutions y hy).resume _ ending
  | finish htask | breakDown htask | abort htask =>
    rw [htask, Multiset.forall_mem_cons] at hexecutions
    exact ⟨hsubmissions, hexecutions.2⟩

/-! ## Requests that change no record -/

/-- Whatever the answer is, a request leaves the records as they are. -/
def LeavesRecords (effect : Effect) : Prop :=
  ∀ m answer m', Replies effect m answer m' → m' = m

/-- A request to anything but the store leaves the records as they are. -/
theorem leavesRecords_of_ne_store {effect : Effect} (h : ∀ call, effect ≠ .store call) :
    LeavesRecords effect := by
  intro m answer m' hreplies
  cases hreplies with
  | store call _ => exact absurd rfl (h call)
  | other _ _ _ => rfl

/-- A look for a record leaves the records as they are. -/
theorem leavesRecords_exists (filter : Run.Filter) (status : Run.Status) :
    LeavesRecords (.store (.exists_ filter status)) := by
  intro m answer m' hreplies
  cases hreplies with
  | store _ _ => rfl
  | other h _ _ => exact absurd rfl (h _)

/-- A submission leaves the records as they are. -/
theorem submit_leavesRecords (config : Config) (request : Request) :
    (submit config request).Asks LeavesRecords := by
  refine ⟨leavesRecords_exists _ _, fun answer => ?_⟩
  cases answer with
  | error cause => trivial
  | ok finished =>
    cases finished with
    | true => trivial
    | false =>
      exact ⟨leavesRecords_of_ne_store fun _ => Effect.noConfusion, fun _ => trivial⟩

/-- An execution leaves the records as they are; only the runs of its attempts write. -/
theorem execute_leavesRecords (config : Config) (compares : Bool) (e : Element) (seen : Nat) :
    (execute config compares e seen).Asks LeavesRecords := by
  refine (execute_asks config compares e seen).mono fun effect heffect => ?_
  refine leavesRecords_of_ne_store ?_
  rintro call rfl
  rcases heffect with hexecutes | hrelease
  · cases hexecutes
  · cases hrelease

/-- After every run the tasks of the queue leave the records as they are. -/
theorem Reaches.leavesRecords {events : List Event} (hrun : Reaches config compares events s) :
    s.Asks LeavesRecords := by
  induction hrun with
  | start => exact asks_start _
  | step _ hstep ih =>
    exact ih.step (submit_leavesRecords _) (execute_leavesRecords _ _) hstep

/-- A step of a scheduler leaves the records and the attempts as they are. -/
theorem Step.leavesRecords (hstep : Step config compares s event t) (h : s.Asks LeavesRecords)
    (hreplied : event.Replied m m') : m' = m ∧ t.attempts = s.attempts := by
  obtain ⟨hsubmissions, hexecutions⟩ := h
  cases hstep with
  | call _ | dispatch _ | begin _ _ | finish _ | breakDown _ | abort _ => exact ⟨hreplied, rfl⟩
  | submit htask hperforms =>
    rw [htask, Multiset.forall_mem_cons] at hsubmissions
    cases hperforms with
    | ask _ => exact ⟨hsubmissions.1.1 _ _ _ hreplied, rfl⟩
  | execute htask hperforms =>
    rw [htask, Multiset.forall_mem_cons] at hexecutions
    cases hperforms with
    | ask _ => exact ⟨hexecutions.1.1 _ _ _ hreplied, rfl⟩
  | beginAttempt _ | endAttempt _ _ => exact hreplied.elim

end BenchQueue.Scheduling
