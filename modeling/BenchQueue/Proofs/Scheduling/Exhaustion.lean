import BenchQueue.Proofs.Scheduling.Balance
import BenchQueue.Proofs.Scheduling.SameWork

/-!
# What it takes to leave the queue

An identifier is accepted again only after its element was removed, and unless an attempt at it
succeeds, an element is removed only after all the attempts that its budget allows have failed.
-/

namespace BenchQueue

/-- Whether an attempt ended with success. -/
def AttemptEnd.isSuccess : AttemptEnd → Bool
  | .returned (.ok ()) => true
  | .returned (.error _) | .panicked => false

namespace Scheduling

variable {config : Config} {compares : Bool} {events : List Event} {event : Event} {s t : System}
  {e : Element} {x : Execution} {identifier : Run.Identifier} {limit n budget : Nat}

/-! ## Counting -/

/-- How an attempt at an identifier ended in a step. -/
def Event.ended? (identifier : Run.Identifier) : Event → Option AttemptEnd
  | .attemptEnded a ending => if a.identifier = identifier then some ending else none
  | _ => none

/-- How the attempts at an identifier ended. -/
def endings (identifier : Run.Identifier) (events : List Event) : List AttemptEnd :=
  events.filterMap (Event.ended? identifier)

/-- Attempts end in one stretch or in the next one. -/
theorem endings_append (identifier : Run.Identifier) (events more : List Event) :
    endings identifier (events ++ more) = endings identifier events ++ endings identifier more :=
  List.filterMap_append

/-- Where no attempt ends, none ends at the identifier. -/
theorem endings_eq_nil (h : ∀ a ending, .attemptEnded a ending ∉ events) :
    endings identifier events = [] := by
  refine List.filterMap_eq_nil_iff.mpr fun event hmem => ?_
  cases event with
  | attemptEnded a ending => exact absurd hmem (h a ending)
  | _ => rfl

/-- How many attempts at an identifier failed. -/
def failures (identifier : Run.Identifier) (events : List Event) : Nat :=
  (endings identifier events).countP (!·.isSuccess)

/-- How often an identifier was accepted. -/
def acceptances (identifier : Run.Identifier) (events : List Event) : Nat :=
  (accepted events).countP (·.identifier = identifier)

/-- Acceptances in one stretch and in the next one add up. -/
theorem acceptances_append (identifier : Run.Identifier) (events more : List Event) :
    acceptances identifier (events ++ more) =
      acceptances identifier events + acceptances identifier more := by
  unfold acceptances
  rw [accepted_append, List.countP_append]

/-- How often an element with an identifier was removed. -/
def removals (identifier : Run.Identifier) (events : List Event) : Nat :=
  (released events).countP (·.identifier = identifier)

/-- No attempt at an identifier has ended with success. -/
def Unsuccessful (identifier : Run.Identifier) (events : List Event) : Prop :=
  ∀ ending ∈ endings identifier events, ending.isSuccess = false

/-! ## Acceptances and removals -/

/-- A queue has at most one element with an identifier. -/
theorem Queue.WellFormed.countP_identifier_le {q : Queue} (hq : q.WellFormed limit)
    (identifier : Run.Identifier) : q.elements.countP (·.identifier = identifier) ≤ 1 := by
  have hcount := List.nodup_iff_count_le_one.mp hq.keys identifier
  rw [List.count, List.countP_map] at hcount
  exact hcount

/-- The elements of a queue wait or execute. -/
theorem Queue.countP_split (q : Queue) (p : Element → Bool) :
    q.elements.countP p = q.pending.countP p + q.executing.countP p := by
  rw [List.countP_eq_countP_filter_add q.elements p (·.executing), Nat.add_comm]
  rfl

/-- The accepted elements with an identifier are as many as its acceptances. -/
theorem countP_acceptedElements (retries : UInt32) (identifier : Run.Identifier)
    (events : List Event) :
    (acceptedElements retries events).countP (·.identifier = identifier) =
      acceptances identifier events := by
  have hfirst : acceptances identifier events =
      ((accepted events).zipIdx.map Prod.fst).countP (·.identifier = identifier) := by
    rw [List.zipIdx_map_fst]
    rfl
  rw [hfirst, acceptedElements, List.countP_map, List.countP_map]
  rfl

/-- Each acceptance of an identifier but the first one comes after a removal. -/
theorem Reaches.acceptances_le (hrun : Reaches config compares events s)
    (identifier : Run.Identifier) :
    acceptances identifier events ≤ removals identifier events + 1 := by
  obtain ⟨-, hsplit, -, hhanded⟩ := hrun.ordered
  have hone := hrun.accounted.queue.countP_identifier_le identifier
  have hwaiting : ((dispatched events).map Element.waiting).countP (·.identifier = identifier) =
      (dispatched events).countP (·.identifier = identifier) := List.countP_map
  have hdispatched := hhanded.countP_eq (·.identifier = identifier)
  have haccepted := congrArg (List.countP (·.identifier = identifier)) hsplit
  rw [countP_acceptedElements, List.countP_append, hwaiting, ← hdispatched, List.countP_append]
    at haccepted
  rw [Queue.countP_split] at hone
  unfold removals
  omega

/-! ## Elements with a task -/

/-- An element that an execution has waits for an attempt or waits for none. -/
theorem Execution.held_eq_idle (x : Execution) : x.held = x.idle + x.awaited.map (·.1) := by
  obtain ⟨element, work⟩ := x
  cases work with
  | running rest => cases rest <;> rfl
  | awaiting attempt next => rfl

/-- The elements that are with a task execute, each of them once. -/
theorem System.Accounted.held_le (h : s.Accounted limit) :
    s.held ≤ (s.queue.executing : Multiset Element) := by
  have hheld : s.held = s.idle + s.awaited.map (·.1) := by
    simp only [System.held, System.idle, System.awaited, Execution.held_eq_idle,
      Multiset.bind_add, Multiset.map_bind, add_assoc]
  rw [hheld]
  exact h.holders

/-- Of two tasks with elements, each has an identifier of its own. -/
theorem System.Accounted.held_identifier_ne (h : s.Accounted limit) {others : Multiset Execution}
    (hexecutions : s.executions = x ::ₘ others) (hx : x.held = {x.element}) {y : Execution}
    (hy : y ∈ others) (hyheld : y.held = {y.element}) :
    x.element.identifier ≠ y.element.identifier := by
  have hpair : {x.element} + {y.element} ≤ (s.queue.executing : Multiset Element) := by
    refine le_trans ?_ h.held_le
    rw [held_eq hexecutions, hx, ← hyheld]
    exact add_le_add le_rfl ((Multiset.le_bind others hy).trans (Multiset.le_add_left _ _))
  have hkeys : (s.queue.executing.map (·.identifier)).Nodup :=
    h.queue.keys.sublist (List.filter_sublist.map _)
  have hdistinct := Multiset.nodup_of_le (Multiset.map_le_map hpair) (Multiset.coe_nodup.mpr hkeys)
  intro hsame
  rw [Multiset.map_add, Multiset.map_singleton, Multiset.map_singleton, hsame] at hdistinct
  simp at hdistinct

/-- The end of an attempt leaves an execution its element. -/
theorem Execution.element_resume (x : Execution) (number : Nat) (ending : AttemptEnd) :
    (x.resume number ending).element = x.element := by
  obtain ⟨element, work⟩ := x
  cases work with
  | running rest => rfl
  | awaiting attempt next =>
    unfold Execution.resume
    dsimp only
    split <;> rfl

/-- The attempt that an execution waits for is one at its element. -/
theorem System.Accounted.attemptAt_eq (h : s.Accounted limit) {a : Attempt} {others : Multiset Attempt}
    {next : AttemptEnd → Task Outcome} (hx : ⟨e, .awaiting a.number next⟩ ∈ s.executions)
    (hattempts : s.attempts = a ::ₘ others) : attemptAt (e, a.number) = a := by
  have hawaited : (e, a.number) ∈ s.awaited :=
    Multiset.mem_bind.mpr ⟨_, hx, Multiset.mem_singleton_self _⟩
  have hmem : attemptAt (e, a.number) ∈ s.attempts :=
    Multiset.mem_of_le h.awaited (Multiset.mem_map_of_mem _ hawaited)
  have ha : a ∈ s.attempts := hattempts ▸ Multiset.mem_cons_self a others
  exact Multiset.inj_on_of_nodup_map h.numbers _ hmem _ ha rfl

/-! ## What is left of a budget -/

/-- The rest of an execution removes its element only after a number of attempts, unless one of them
succeeds. -/
inductive Needs : Nat → Task Outcome → Prop
  | done (n : Nat) (outcome : Outcome) : Needs n (.done outcome)
  | ask {n : Nat} {effect : Effect} {next : effect.Answer → Task Outcome}
      (heffect : ∀ identifier, effect ≠ .release identifier) (hnext : ∀ answer, Needs n (next answer)) :
      Needs n (Flow.ask effect next)
  | attempt {n : Nat} {identifier : Run.Identifier} {configPath : String}
      {next : AttemptEnd → Task Outcome}
      (hnext : ∀ ending, ending.isSuccess = false → Needs n (next ending)) :
      Needs (n + 1) (Flow.ask (.attempt identifier configPath) next)
  | release {identifier : Run.Identifier} {next : Unit → Task Outcome} :
      Needs 0 (Flow.ask (.release identifier) next)

/-- Work that does not remove the element may come first. -/
theorem Needs.bind {α : Type} {task : Task α} {f : α → Task Outcome}
    (htask : task.Asks (Executes e)) (hf : ∀ a, Needs n (f a)) : Needs n (task.bind f) := by
  induction task with
  | done a => exact hf a
  | ask effect next ih =>
    refine .ask ?_ fun a => ih a (htask.2 a)
    rintro identifier rfl
    cases htask.1

/-- The attempts that remain all have to fail before what comes after them. -/
theorem attempts_needs (p : RetryPolicy) (e : Element) (budget : Nat) {f : Outcome → Task Outcome}
    (hf : Needs 0 (f (.exhausted budget))) (remaining : Nat) :
    Needs remaining ((attempts p e budget remaining).bind f) := by
  induction remaining with
  | zero => exact hf
  | succ remaining ih =>
    change Needs (remaining + 1) (((waitBefore p _).bind _).bind f)
    rw [Flow.bind_assoc]
    refine Needs.bind (waitBefore_asks (e := e) p _) fun _ => ?_
    refine .attempt fun ending hfailed => ?_
    cases ending with
    | panicked => exact ih
    | returned result =>
      cases result with
      | error cause => exact ih
      | ok _ => cases hfailed

/-- An execution needs as many failed attempts as its element may use. -/
theorem execute_needs (config : Config) (compares : Bool) (e : Element) (seen : Nat) :
    Needs e.maxAttempts.toNat (execute config compares e seen) :=
  attempts_needs config.retryPolicy e e.maxAttempts.toNat .release e.maxAttempts.toNat

/-- How many failed attempts an execution needs at least to remove its element. -/
def Execution.Needs (n : Nat) (x : Execution) : Prop :=
  match x.work with
  | .running rest => Scheduling.Needs n rest
  | .awaiting _ next =>
    ∃ m, n ≤ m + 1 ∧ ∀ ending, ending.isSuccess = false → Scheduling.Needs m (next ending)

/-! ## Paying for a removal -/

/-- A step that removes nothing leaves the removals as they are. -/
theorem removals_append_none (h : event.released? = none) :
    removals identifier (events ++ [event]) = removals identifier events :=
  congrArg (List.countP _) (filterMap_append_none h)

/-- A step in which no attempt at the identifier ends leaves the failures as they are. -/
theorem failures_append_none (h : event.ended? identifier = none) :
    failures identifier (events ++ [event]) = failures identifier events :=
  congrArg (List.countP _) (filterMap_append_none h)

/-- An attempt that fails is one failure more. -/
theorem failures_append_failed {ending : AttemptEnd} (h : event.ended? identifier = some ending)
    (hfailed : ending.isSuccess = false) :
    failures identifier (events ++ [event]) = failures identifier events + 1 := by
  unfold failures endings
  rw [filterMap_append_some h, List.countP_append]
  simp [hfailed]

/-- Where no attempt has succeeded, the last one has not either. -/
theorem Unsuccessful.ending {ending : AttemptEnd} (h : Unsuccessful identifier (events ++ [event]))
    (hended : event.ended? identifier = some ending) : ending.isSuccess = false := by
  refine h ending ?_
  unfold endings
  rw [filterMap_append_some hended]
  exact List.mem_append_right _ (List.mem_singleton_self ending)

/-- Where no attempt has succeeded, none had before. -/
theorem Unsuccessful.before {more : List Event} (h : Unsuccessful identifier (events ++ more)) :
    Unsuccessful identifier events := by
  intro ending hending
  refine h ending ?_
  rw [endings_append]
  exact List.mem_append_left _ hending

/-- Every removed element with an identifier has been paid for with failed attempts, and the one that
is executed is paid for but for the attempts that it still needs. -/
structure System.Paid (identifier : Run.Identifier) (budget : Nat) (events : List Event) (s : System) :
    Prop where
  removed : budget * removals identifier events ≤ failures identifier events
  owed : ∀ x ∈ s.executions, x.element.identifier = identifier → x.held = {x.element} →
    ∃ n, x.Needs n ∧ budget * (removals identifier events + 1) ≤ failures identifier events + n

/-- Nothing is owed before the first step. -/
theorem paid_start (identifier : Run.Identifier) (budget : Nat) :
    ({} : System).Paid identifier budget [] :=
  { removed := Nat.zero_le _
    owed := fun _ hmem => absurd hmem (Multiset.notMem_zero _) }

namespace System.Paid

/-- A step that removes nothing, ends no attempt at the identifier and starts no execution. -/
theorem quiet (h : s.Paid identifier budget events) (hreleased : event.released? = none)
    (hended : event.ended? identifier = none) (hexecutions : ∀ x ∈ t.executions, x ∈ s.executions) :
    t.Paid identifier budget (events ++ [event]) := by
  constructor
  · rw [removals_append_none hreleased, failures_append_none hended]
    exact h.removed
  · intro x hx
    rw [removals_append_none hreleased, failures_append_none hended]
    exact h.owed x (hexecutions x hx)

/-- A request that is answered with the element still in the queue. -/
theorem keep {effect : Effect} {next : effect.Answer → Task Outcome}
    {answer : effect.Answer} {queue : Queue} {others : Multiset Execution}
    (h : s.Paid identifier budget events) (hanswers : Answers effect s.queue answer queue)
    (heffect : ∀ identifier, effect ≠ .release identifier)
    (hs : s.executions = ⟨e, .running (Flow.ask effect next)⟩ ::ₘ others)
    (ht : t.executions = ⟨e, .running (next answer)⟩ ::ₘ others) :
    t.Paid identifier budget (events ++ [.executing e effect answer]) := by
  have hreleased : (Event.executing e effect answer).released? = none := by
    cases effect with
    | release i => exact absurd rfl (heffect i)
    | _ => rfl
  constructor
  · rw [removals_append_none hreleased, failures_append_none rfl]
    exact h.removed
  · intro x hx
    rw [removals_append_none hreleased, failures_append_none rfl]
    rw [ht, Multiset.mem_cons] at hx
    rcases hx with rfl | hx
    · intro hidentifier _
      obtain ⟨n, hneeds, howed⟩ := h.owed ⟨e, .running (Flow.ask effect next)⟩
        (hs ▸ Multiset.mem_cons_self _ _) hidentifier rfl
      refine ⟨n, ?_, howed⟩
      cases hneeds with
      | ask _ hnext => exact hnext answer
      | attempt _ =>
        cases hanswers with
        | outside h _ _ => cases h
      | release => exact absurd rfl (heffect _)
    · exact h.owed x (hs ▸ Multiset.mem_cons_of_mem hx)

/-- The removal of an element, which needs no other attempt by then. -/
theorem release {next : Unit → Task Outcome} {outcome : Outcome} {others : Multiset Execution}
    (h : s.Paid identifier budget events) (haccounted : s.Accounted limit)
    (hs : s.executions = ⟨e, .running (Flow.ask (.release e.identifier) next)⟩ ::ₘ others)
    (ht : t.executions = ⟨e, .running (.done outcome)⟩ ::ₘ others) :
    t.Paid identifier budget (events ++ [.executing e (.release e.identifier) ()]) := by
  have hreleased : (Event.executing e (.release e.identifier) ()).released? = some e := rfl
  have hfailures : failures identifier (events ++ [.executing e (.release e.identifier) ()]) =
      failures identifier events := failures_append_none rfl
  have hremovals : removals identifier (events ++ [.executing e (.release e.identifier) ()]) =
      removals identifier events + if e.identifier = identifier then 1 else 0 := by
    unfold removals released
    rw [filterMap_append_some hreleased, List.countP_append]
    simp [List.countP_singleton]
  have hothers : ∀ y ∈ others, y ∈ s.executions := fun y hy => hs ▸ Multiset.mem_cons_of_mem hy
  constructor
  · rw [hfailures, hremovals]
    by_cases hsame : e.identifier = identifier
    · obtain ⟨n, hneeds, howed⟩ := h.owed ⟨e, .running (Flow.ask (.release e.identifier) next)⟩
        (hs ▸ Multiset.mem_cons_self _ _) hsame rfl
      rw [if_pos hsame]
      -- An execution that asks for the removal needs no attempts any more.
      cases hneeds with
      | ask heffect _ => exact absurd rfl (heffect _)
      | release => exact howed
    · rw [if_neg hsame]
      exact h.removed
  · intro y hy hidentifier hheld
    rw [hfailures, hremovals]
    rw [ht, Multiset.mem_cons] at hy
    rcases hy with rfl | hy
    · exact absurd hheld.symm (Multiset.singleton_ne_zero e)
    -- No other execution has an element of the same identifier.
    · have hne := haccounted.held_identifier_ne hs rfl hy hheld
      rw [if_neg fun hsame => hne (hsame.trans hidentifier.symm)]
      exact h.owed y (hothers y hy) hidentifier hheld

/-- The end of an attempt, which was a failed one if it was at the identifier. -/
theorem endAttempt {a : Attempt} {others : Multiset Attempt} {ending : AttemptEnd}
    (h : s.Paid identifier budget events) (hdisciplined : s.Disciplined config)
    (haccounted : s.Accounted limit) (hattempts : s.attempts = a ::ₘ others)
    (hunsuccessful : Unsuccessful identifier (events ++ [.attemptEnded a ending]))
    (ht : t.executions = s.executions.map (·.resume a.number ending)) :
    t.Paid identifier budget (events ++ [.attemptEnded a ending]) := by
  have hremovals : removals identifier (events ++ [.attemptEnded a ending]) =
      removals identifier events := removals_append_none rfl
  have hfailures : failures identifier events ≤
      failures identifier (events ++ [.attemptEnded a ending]) := by
    unfold failures
    rw [endings_append, List.countP_append]
    exact Nat.le_add_right _ _
  constructor
  · rw [hremovals]
    exact h.removed.trans hfailures
  · intro x hx hidentifier hheld
    rw [ht] at hx
    obtain ⟨y, hy, rfl⟩ := Multiset.mem_map.mp hx
    have helement : (y.resume a.number ending).element = y.element := Execution.element_resume y _ _
    rw [held_resume (hdisciplined.executions y hy), helement] at hheld
    rw [helement] at hidentifier
    obtain ⟨n, hneeds, howed⟩ := h.owed y hy hidentifier hheld
    rw [hremovals]
    obtain ⟨element, work⟩ := y
    cases work with
    | running rest => exact ⟨n, hneeds, howed.trans (Nat.add_le_add_right hfailures n)⟩
    | awaiting number next =>
      -- Only the execution that waits for this attempt goes on; a failure is one attempt paid.
      by_cases hnumber : number = a.number
      · subst hnumber
        have hmine : attemptAt (element, a.number) = a := haccounted.attemptAt_eq hy hattempts
        have hended : Event.ended? identifier (.attemptEnded a ending) = some ending := by
          rw [← hmine]
          exact if_pos hidentifier
        have hfailed := hunsuccessful.ending hended
        obtain ⟨m, hle, hnext⟩ := hneeds
        refine ⟨m, ?_, ?_⟩
        · simp only [Execution.resume, if_true]
          exact hnext ending hfailed
        · rw [failures_append_failed hended hfailed]
          omega
      · simp only [Execution.resume, if_neg hnumber]
        exact ⟨n, hneeds, howed.trans (Nat.add_le_add_right hfailures n)⟩

/-- The start of an execution, whose element may use at least the budget. -/
theorem begin {seen : Nat} (h : s.Paid identifier budget events)
    (hbudget : e.identifier = identifier → budget ≤ e.maxAttempts.toNat)
    (ht : t.executions = ⟨e, .running (execute config compares e seen)⟩ ::ₘ s.executions) :
    t.Paid identifier budget (events ++ [.executionBegan e]) := by
  constructor
  · rw [removals_append_none rfl, failures_append_none rfl]
    exact h.removed
  · intro x hx hidentifier hheld
    rw [removals_append_none rfl, failures_append_none rfl]
    rw [ht, Multiset.mem_cons] at hx
    rcases hx with rfl | hx
    · refine ⟨_, execute_needs config compares e seen, ?_⟩
      have hremoved := h.removed
      have hallowed := hbudget hidentifier
      rw [Nat.mul_succ]
      omega
    · exact h.owed x hx hidentifier hheld

/-- An execution that waits for an attempt needs this one first. -/
theorem beginAttempt {i : Run.Identifier} {configPath : String} {next : AttemptEnd → Task Outcome}
    {others : Multiset Execution} {a : Attempt} (h : s.Paid identifier budget events)
    (hs : s.executions = ⟨e, .running (Flow.ask (.attempt i configPath) next)⟩ ::ₘ others)
    (ht : t.executions = ⟨e, .awaiting s.begun next⟩ ::ₘ others) :
    t.Paid identifier budget (events ++ [.attemptBegan a]) := by
  constructor
  · rw [removals_append_none rfl, failures_append_none rfl]
    exact h.removed
  · intro x hx hidentifier hheld
    rw [removals_append_none rfl, failures_append_none rfl]
    rw [ht, Multiset.mem_cons] at hx
    rcases hx with rfl | hx
    · obtain ⟨n, hneeds, howed⟩ := h.owed ⟨e, .running (Flow.ask (.attempt i configPath) next)⟩
        (hs ▸ Multiset.mem_cons_self _ _) hidentifier rfl
      refine ⟨n, ?_, howed⟩
      cases hneeds with
      | ask _ hnext => exact ⟨n, Nat.le_succ n, fun ending _ => hnext ending⟩
      | @attempt m _ _ _ hnext => exact ⟨m, le_rfl, hnext⟩
    · exact h.owed x (hs ▸ Multiset.mem_cons_of_mem hx) hidentifier hheld

/-- A step keeps everything paid for, as long as no attempt at the identifier succeeds. -/
theorem step (h : s.Paid identifier budget events) (hdisciplined : s.Disciplined config)
    (haccounted : s.Accounted limit)
    (hbudget : ∀ e ∈ s.admitted, e.identifier = identifier → budget ≤ e.maxAttempts.toNat)
    (hunsuccessful : Unsuccessful identifier (events ++ [event]))
    (hstep : Step config compares s event t) : t.Paid identifier budget (events ++ [event]) := by
  cases hstep with
  | call _ | dispatch _ => exact h.quiet rfl rfl fun _ hx => hx
  | submit _ _ => exact h.quiet rfl rfl fun _ hx => hx
  | begin seen helement =>
    exact h.begin (hbudget _ (helement ▸ Multiset.mem_cons_self _ _)) rfl
  | @execute e _ _ others effect answer queue htask hperforms =>
    have hexecutions := hdisciplined.executions
    rw [htask, Multiset.forall_mem_cons] at hexecutions
    obtain ⟨hanswers⟩ := hperforms
    cases hexecutions.1.holds with
    | keep heffect _ =>
      refine h.keep hanswers ?_ htask rfl
      rintro identifier rfl
      rcases heffect with hcase | hcase | hcase <;> cases hcase
    | release hnext =>
      cases hanswers with
      | release _ _ => exact h.release haccounted htask (by rw [hnext])
      | outside h _ _ => cases h
  | beginAttempt htask => exact h.beginAttempt htask rfl
  | endAttempt ending hattempt =>
    exact h.endAttempt hdisciplined haccounted hattempt hunsuccessful rfl
  | finish htask | breakDown htask | abort htask =>
    exact h.quiet rfl rfl fun x hx => htask ▸ Multiset.mem_cons_of_mem hx

end System.Paid

/-- The elements that were handed out are those of accepted requests. -/
theorem Reaches.maxAttempts_of_held (hrun : Reaches config compares events s)
    (hbudget : ∀ r ∈ accepted events, r.identifier = identifier →
      budget ≤ (({} : Queue).elementOf config.defaultRetries r).maxAttempts.toNat)
    (he : e ∈ s.held) (hidentifier : e.identifier = identifier) :
    budget ≤ e.maxAttempts.toNat := by
  obtain ⟨-, hsplit, -, hhanded⟩ := hrun.ordered
  have hexecuting : e ∈ s.queue.executing :=
    Multiset.mem_coe.mp (Multiset.mem_of_le hrun.accounted.held_le he)
  have hdispatched : e ∈ dispatched events := hhanded.subset (List.mem_append_left _ hexecuting)
  have haccepted : e.waiting ∈ acceptedElements config.normalized.defaultRetries events := by
    rw [hsplit]
    exact List.mem_append_left _ (List.mem_map_of_mem hdispatched)
  obtain ⟨⟨r, serial⟩, hmem, hwaiting⟩ := List.mem_map.mp haccepted
  have hr : r ∈ accepted events := List.fst_mem_of_mem_zipIdx hmem
  have hsame : r.identifier = identifier :=
    (congrArg Element.identifier hwaiting).trans hidentifier
  have hattempts : e.maxAttempts = (({} : Queue).elementOf config.defaultRetries r).maxAttempts :=
    (congrArg Element.maxAttempts hwaiting).symm
  rw [hattempts]
  exact hbudget r hr hsame

/-- As long as no attempt at an identifier has succeeded, each removal of its element comes after as
many failed attempts as the requests for it allow. -/
theorem Reaches.removals_le (hrun : Reaches config compares events s)
    (hbudget : ∀ r ∈ accepted events, r.identifier = identifier →
      budget ≤ (({} : Queue).elementOf config.defaultRetries r).maxAttempts.toNat)
    (hunsuccessful : Unsuccessful identifier events) :
    budget * removals identifier events ≤ failures identifier events := by
  have hpaid : s.Paid identifier budget events := by
    induction hrun with
    | start => exact paid_start identifier budget
    | @step events s t event hrun hstep ih =>
      have hbefore : ∀ r ∈ accepted events, r.identifier = identifier →
          budget ≤ (({} : Queue).elementOf config.defaultRetries r).maxAttempts.toNat := by
        intro r hr
        refine hbudget r ?_
        rw [accepted_append]
        exact List.mem_append_left _ hr
      refine (ih hbefore hunsuccessful.before).step hrun.disciplined hrun.accounted ?_ hunsuccessful
        hstep
      intro e he
      exact hrun.maxAttempts_of_held hbefore (Multiset.mem_add.mpr (Or.inl he))
  exact hpaid.removed

end Scheduling

end BenchQueue
