import BenchQueue.Proofs.Scheduling.Holding
import Mathlib.Data.Multiset.Bind

/-!
# What a step changes

A task that has a slot is either idle, which means that it may make its next request, or it awaits an
attempt. What a step does to the queue, to the tasks with a slot and to the attempts is said once, by
`Change`; what holds in every run is derived from it.
-/

namespace BenchQueue.Scheduling

/-! ## Tasks with a slot -/

/-- The element of an execution that has a slot and waits for no attempt. -/
def Execution.idle (x : Execution) : Multiset Element :=
  match x.work with
  | .running (Flow.ask _ _) => {x.element}
  | .running (Flow.done _) | .awaiting _ _ => 0

/-- The element of an execution that waits for an attempt, with the number of the attempt. -/
def Execution.awaited (x : Execution) : Multiset (Element × Nat) :=
  match x.work with
  | .running _ => 0
  | .awaiting attempt _ => {(x.element, attempt)}

/-- The elements with a slot whose tasks wait for no attempt. -/
def System.idle (s : System) : Multiset Element :=
  s.admitted + s.executions.bind Execution.idle

/-- The elements whose tasks wait for attempts, with the numbers of the attempts. -/
def System.awaited (s : System) : Multiset (Element × Nat) :=
  s.executions.bind Execution.awaited

/-- The attempt with a number at an element. -/
def attemptAt (p : Element × Nat) : Attempt := ⟨p.2, p.1.identifier, p.1.configPath⟩

/-- The rest of an execution has the slot of its element unless it is over. -/
def Execution.Disciplined (x : Execution) : Prop :=
  match x.work with
  | .running rest => Holds x.element rest ∨ ∃ outcome, rest = .done outcome
  | .awaiting _ next => ∀ ending, Holds x.element (next ending)

/-- All tasks of a system are what they were started as, up to some of their requests. -/
structure System.Disciplined (config : Config) (s : System) : Prop where
  submissions : ∀ task ∈ s.submissions, task.Asks (Submits config)
  executions : ∀ x ∈ s.executions, x.Disciplined

variable {config : Config} {compares : Bool} {s t : System} {event : Event} {events : List Event}
  {e : Element}

/-- An execution that is to remove its element, and waits for no attempt, has its slot. -/
theorem idle_of_holds {rest : Task Outcome} (h : Holds e rest) :
    Execution.idle ⟨e, .running rest⟩ = {e} := by
  cases h <;> rfl

/-- An execution that is about to make a request has the slot of its element. -/
theorem Execution.Disciplined.holds {effect : Effect} {next : effect.Answer → Task Outcome}
    (h : Execution.Disciplined ⟨e, .running (Flow.ask effect next)⟩) :
    Holds e (Flow.ask effect next) := by
  rcases h with hholds | ⟨_, hdone⟩
  · exact hholds
  · cases hdone

/-- When an attempt ends, the element that waited for it waits for no attempt any more. -/
theorem idle_resume {x : Execution} (hx : x.Disciplined) (number : Nat) (ending : AttemptEnd) :
    (x.resume number ending).idle =
      x.idle + (x.awaited.filter (·.2 = number)).map (·.1) := by
  obtain ⟨element, work⟩ := x
  cases work with
  | running rest => simp [Execution.resume, Execution.awaited]
  | awaiting attempt next =>
    by_cases hnumber : attempt = number
    · have hidle : Execution.idle ⟨element, .running (next ending)⟩ = {element} :=
        idle_of_holds (hx ending)
      simp only [Execution.resume, Execution.awaited, if_pos hnumber, hidle,
        Multiset.filter_singleton, Multiset.map_singleton]
      exact (zero_add _).symm
    · simp only [Execution.resume, Execution.awaited, if_neg hnumber, Multiset.filter_singleton]
      exact (add_zero _).symm

/-- When an attempt ends, an execution goes on waiting only for an attempt with another number. -/
theorem awaited_resume (x : Execution) (number : Nat) (ending : AttemptEnd) :
    (x.resume number ending).awaited = x.awaited.filter (·.2 ≠ number) := by
  obtain ⟨element, work⟩ := x
  cases work with
  | running rest => rfl
  | awaiting attempt next =>
    by_cases hnumber : attempt = number <;>
      simp [Execution.resume, Execution.awaited, hnumber, Multiset.filter_singleton]

/-- The tasks that waited for an attempt become idle at its end. -/
theorem bind_idle_resume {executions : Multiset Execution}
    (h : ∀ x ∈ executions, x.Disciplined) (number : Nat) (ending : AttemptEnd) :
    (executions.map (·.resume number ending)).bind Execution.idle =
      executions.bind Execution.idle +
        ((executions.bind Execution.awaited).filter (·.2 = number)).map (·.1) := by
  rw [Multiset.bind_map, Multiset.bind_congr fun x hx => idle_resume (h x hx) number ending,
    Multiset.bind_add, Multiset.filter_bind, Multiset.map_bind]

/-- When an attempt ends, the executions go on waiting for the attempts with other numbers. -/
theorem bind_awaited_resume (executions : Multiset Execution) (number : Nat)
    (ending : AttemptEnd) :
    (executions.map (·.resume number ending)).bind Execution.awaited =
      (executions.bind Execution.awaited).filter (·.2 ≠ number) := by
  rw [Multiset.bind_map, Multiset.filter_bind]
  exact Multiset.bind_congr fun x _ => awaited_resume x number ending

/-! ## What a step does -/

/-- A request to anything but the queue leaves the queue as it is. -/
theorem Answers.queue_eq {effect : Effect} {answer : effect.Answer} {q q' : Queue}
    (h : Answers effect q answer q') (houtside : isOutside effect = true) : q' = q := by
  cases h with
  | outside _ _ _ => rfl
  | _ => cases houtside

/-- After a request, the rest of an execution has the slot still, or it has given it back. -/
theorem Holds.next {effect : Effect} {next : effect.Answer → Task Outcome}
    (h : Holds e (Flow.ask effect next)) (answer : effect.Answer) :
    Holds e (next answer) ∨ ∃ outcome, next answer = .done outcome := by
  cases h with
  | keep _ hnext => exact Or.inl (hnext answer)
  | release hnext => exact Or.inr ⟨_, hnext⟩

/-- An execution stays disciplined when an attempt ends. -/
theorem Execution.Disciplined.resume {x : Execution} (hx : x.Disciplined) (number : Nat)
    (ending : AttemptEnd) : (x.resume number ending).Disciplined := by
  obtain ⟨element, work⟩ := x
  cases work with
  | running rest => exact hx
  | awaiting attempt next =>
    by_cases hnumber : attempt = number
    · simp only [Execution.resume, if_pos hnumber]
      exact Or.inl (hx ending)
    · simp only [Execution.resume, if_neg hnumber]
      exact hx

/-- A step keeps the tasks of a system disciplined. -/
theorem System.Disciplined.step (h : s.Disciplined config)
    (hstep : Step config compares s event t) : t.Disciplined config := by
  obtain ⟨hsubmissions, hexecutions⟩ := h
  cases hstep with
  | call request =>
    exact ⟨Multiset.forall_mem_cons.mpr ⟨submit_asks config request, hsubmissions⟩, hexecutions⟩
  | submit htask hperforms =>
    rw [htask, Multiset.forall_mem_cons] at hsubmissions
    refine ⟨Multiset.forall_mem_cons.mpr ⟨?_, hsubmissions.2⟩, hexecutions⟩
    cases hperforms with
    | ask _ => exact hsubmissions.1.2 _
  | dispatch _ => exact ⟨hsubmissions, hexecutions⟩
  | @begin e _ seen _ =>
    have hholds := execute_holds config compares e seen
    exact ⟨hsubmissions, Multiset.forall_mem_cons.mpr ⟨Or.inl hholds, hexecutions⟩⟩
  | execute htask hperforms =>
    rw [htask, Multiset.forall_mem_cons] at hexecutions
    refine ⟨hsubmissions, Multiset.forall_mem_cons.mpr ⟨?_, hexecutions.2⟩⟩
    cases hperforms with
    | ask _ => exact hexecutions.1.holds.next _
  | beginAttempt htask =>
    rw [htask, Multiset.forall_mem_cons] at hexecutions
    refine ⟨hsubmissions, Multiset.forall_mem_cons.mpr ⟨?_, hexecutions.2⟩⟩
    cases hexecutions.1.holds with
    | keep _ hnext => exact hnext
  | endAttempt ending _ =>
    refine ⟨hsubmissions, fun x hx => ?_⟩
    obtain ⟨y, hy, rfl⟩ := Multiset.mem_map.mp hx
    exact (hexecutions y hy).resume _ ending
  | finish htask | breakDown htask | abort htask =>
    rw [htask, Multiset.forall_mem_cons] at hexecutions
    exact ⟨hsubmissions, hexecutions.2⟩

/-- A system without tasks is disciplined. -/
theorem disciplined_start (config : Config) : ({} : System).Disciplined config :=
  { submissions := fun _ hmem => absurd hmem (Multiset.notMem_zero _)
    executions := fun _ hmem => absurd hmem (Multiset.notMem_zero _) }

/-- After every run the tasks of a system are what they were started as, up to some of their
requests. -/
theorem Reaches.disciplined (hrun : Reaches config compares events s) :
    s.Disciplined config.normalized := by
  induction hrun with
  | start => exact disciplined_start _
  | step _ hstep ih => exact ih.step hstep

/-- What a step does to the queue, to the tasks with a slot and to the attempts. -/
inductive Change (config : Config) (s : System) : Event → System → Prop
  | quiet {event : Event} {t : System} (hqueue : t.queue = s.queue) (hidle : t.idle ≤ s.idle)
      (hawaited : t.awaited ≤ s.awaited) (hattempts : t.attempts = s.attempts)
      (hbegun : t.begun = s.begun) (haccepted : event.accepted? = none)
      (hdispatched : event.dispatched? = none) (hreleased : event.released? = none) :
      Change config s event t
  | submit {t : System} (request : Request)
      (hqueue : t.queue = (s.queue.submit config.defaultRetries request).2)
      (hidle : t.idle = s.idle) (hawaited : t.awaited = s.awaited)
      (hattempts : t.attempts = s.attempts) (hbegun : t.begun = s.begun) :
      Change config s (.submitting (.enqueue config.defaultRetries request)
        (s.queue.submit config.defaultRetries request).1) t
  | dispatch {t : System} {e : Element}
      (hqueue : s.queue.dispatch? config.maxConcurrentJobs.toNat = some (e, t.queue))
      (hidle : t.idle = e ::ₘ s.idle) (hawaited : t.awaited = s.awaited)
      (hattempts : t.attempts = s.attempts) (hbegun : t.begun = s.begun) :
      Change config s (.dispatched (some e)) t
  | release {t : System} {e : Element} (hqueue : t.queue = s.queue.release e.identifier)
      (hidle : s.idle = e ::ₘ t.idle) (hawaited : t.awaited = s.awaited)
      (hattempts : t.attempts = s.attempts) (hbegun : t.begun = s.begun) :
      Change config s (.executing e (.release e.identifier) ()) t
  | beginAttempt {t : System} {e : Element} (hqueue : t.queue = s.queue)
      (hidle : s.idle = e ::ₘ t.idle) (hawaited : t.awaited = (e, s.begun) ::ₘ s.awaited)
      (hattempts : t.attempts = attemptAt (e, s.begun) ::ₘ s.attempts)
      (hbegun : t.begun = s.begun + 1) :
      Change config s (.attemptBegan (attemptAt (e, s.begun))) t
  | endAttempt {t : System} {a : Attempt} (ending : AttemptEnd) (hqueue : t.queue = s.queue)
      (hidle : t.idle = s.idle + (s.awaited.filter (·.2 = a.number)).map (·.1))
      (hawaited : t.awaited = s.awaited.filter (·.2 ≠ a.number))
      (hattempts : s.attempts = a ::ₘ t.attempts) (hbegun : t.begun = s.begun) :
      Change config s (.attemptEnded a ending) t

/-- A submission that asks something else than the queue accepts nothing. -/
theorem accepted?_of_outside {effect : Effect} (h : isOutside effect = true)
    (answer : effect.Answer) : (Event.submitting effect answer).accepted? = none := by
  cases effect <;> first | rfl | cases h

/-- An execution that asks something else than the queue removes nothing. -/
theorem released?_of_outside {effect : Effect} (h : isOutside effect = true)
    (answer : effect.Answer) : (Event.executing e effect answer).released? = none := by
  cases effect <;> first | rfl | cases h

/-- The executions of a system whose first one is known. -/
theorem idle_eq {x : Execution} {others : Multiset Execution} (h : s.executions = x ::ₘ others) :
    s.idle = x.idle + (s.admitted + others.bind Execution.idle) := by
  rw [System.idle, h, Multiset.cons_bind, add_left_comm]

/-- The elements that wait for attempts are that of one execution, if it does, and those of the
others. -/
theorem awaited_eq {x : Execution} {others : Multiset Execution}
    (h : s.executions = x ::ₘ others) :
    s.awaited = x.awaited + others.bind Execution.awaited := by
  rw [System.awaited, h, Multiset.cons_bind]

/-- Every step of a system of disciplined tasks is one of the changes. -/
theorem Step.change (hstep : Step config compares s event t) (h : s.Disciplined config) :
    Change config s event t := by
  obtain ⟨hsubmissions, hexecutions⟩ := h
  cases hstep with
  | call request => exact .quiet rfl le_rfl le_rfl rfl rfl rfl rfl rfl
  | submit htask hperforms =>
    rw [htask, Multiset.forall_mem_cons] at hsubmissions
    cases hperforms with
    | ask hanswers =>
      -- A submission asks the queue only for its own request, or it leaves the queue alone.
      rcases hsubmissions.1.1 with houtside | ⟨request, rfl⟩
      · exact .quiet (hanswers.queue_eq houtside) le_rfl le_rfl rfl rfl
          (accepted?_of_outside houtside _) rfl rfl
      · cases hanswers with
        | enqueue _ _ _ => exact .submit request rfl rfl rfl rfl rfl
        | outside h _ _ => cases h
  | dispatch hperforms =>
    change Performs (Flow.ask (.dispatch config.maxConcurrentJobs.toNat) Flow.done) _ _ _ _ _
      at hperforms
    cases hperforms with
    | ask hanswers =>
      cases hanswers with
      | dispatch hsome => exact .dispatch hsome (Multiset.cons_add _ _ _) rfl rfl rfl
      | dispatchNone _ => exact .quiet rfl le_rfl le_rfl rfl rfl rfl rfl rfl
      | outside h _ _ => cases h
  | @begin e others seen helement =>
    have hidle := idle_of_holds (execute_holds config compares e seen)
    refine .quiet rfl (le_of_eq ?_) (le_of_eq ?_) rfl rfl rfl rfl rfl
    · simp only [System.idle, helement, Multiset.cons_bind, hidle]
      rw [← Multiset.singleton_add, add_left_comm, add_assoc]
    · simp [System.awaited, Execution.awaited]
  | @execute e rest rest' others effect answer queue htask hperforms =>
    rw [htask, Multiset.forall_mem_cons] at hexecutions
    have hidle := idle_eq htask
    have hawaited := awaited_eq htask
    obtain ⟨hanswers⟩ := hperforms
    -- What is left of an execution keeps the slot with its next request, or removes the element.
    cases hexecutions.1.holds with
    | keep heffect hnext =>
      rcases heffect with houtside | rfl | rfl
      · refine .quiet (hanswers.queue_eq houtside) (le_of_eq ?_) (le_of_eq ?_) rfl rfl rfl rfl
          (released?_of_outside houtside answer)
        · rw [hidle, idle_eq rfl, idle_of_holds (hnext answer)]
          rfl
        · rw [hawaited, awaited_eq rfl]
          rfl
      · cases answer
      · cases hanswers with
        | outside h _ _ => cases h
    | release hnext =>
      cases hanswers with
      | release _ _ =>
        refine .release rfl ?_ ?_ rfl rfl
        · rw [hidle, idle_eq rfl, hnext]
          change {e} + _ = e ::ₘ (0 + _)
          rw [zero_add, Multiset.singleton_add]
        · rw [hawaited, awaited_eq rfl]
          rfl
      | outside h _ _ => cases h
  | @beginAttempt e identifier configPath next others htask =>
    rw [htask, Multiset.forall_mem_cons] at hexecutions
    have hidle := idle_eq htask
    have hawaited := awaited_eq htask
    cases hexecutions.1.holds with
    | keep heffect _ =>
      have hattempt : Effect.attempt identifier configPath =
          .attempt e.identifier e.configPath := by
        rcases heffect with houtside | hpanic | hattempt
        · cases houtside
        · cases hpanic
        · exact hattempt
      obtain ⟨rfl, rfl⟩ := Effect.attempt.inj hattempt
      refine .beginAttempt rfl ?_ ?_ rfl rfl
      · rw [hidle, idle_eq rfl]
        change {e} + _ = e ::ₘ (0 + _)
        rw [zero_add, Multiset.singleton_add]
      · rw [hawaited, awaited_eq rfl]
        change {(e, s.begun)} + _ = (e, s.begun) ::ₘ (0 + _)
        rw [zero_add, Multiset.singleton_add]
  | endAttempt ending hattempt =>
    refine .endAttempt ending rfl ?_ (bind_awaited_resume _ _ _) hattempt rfl
    rw [System.idle, System.idle, bind_idle_resume hexecutions, ← add_assoc]
    rfl
  | finish htask | breakDown htask | abort htask =>
    refine .quiet rfl ?_ ?_ rfl rfl rfl rfl rfl
    · rw [idle_eq htask]
      exact Multiset.le_add_left _ _
    · rw [awaited_eq htask]
      exact Multiset.le_add_left _ _

end BenchQueue.Scheduling
