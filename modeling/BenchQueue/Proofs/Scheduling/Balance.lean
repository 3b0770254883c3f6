import BenchQueue.Proofs.Scheduling.Order

/-!
# Where the elements are that were handed out

An element that was handed out is with a task until the task removes it from the queue. If the task
breaks down or is given up before that, no task has the element any more, but the queue still does.
-/

namespace BenchQueue.Scheduling

variable {config : Config} {compares : Bool} {s t : System} {event : Event} {events : List Event}
  {e : Element} {x : Execution}

/-- The element of an execution that has not removed it yet. -/
def Execution.held (x : Execution) : Multiset Element :=
  match x.work with
  | .running (Flow.done _) => 0
  | .running (Flow.ask _ _) | .awaiting _ _ => {x.element}

/-- The elements that are with a task. -/
def System.held (s : System) : Multiset Element :=
  s.admitted + s.executions.bind Execution.held

/-- The element that no task has any more after a step, although it was not removed. -/
def Event.abandoned? : Event → Option Element
  | .executionPanicked e | .executionAborted e => some e
  | _ => none

/-- The elements whose executions broke down or were given up. -/
def abandoned (events : List Event) : List Element := events.filterMap Event.abandoned?

/-- What is removed in one stretch and the next is removed in both together. -/
theorem released_append (events more : List Event) :
    released (events ++ more) = released events ++ released more :=
  List.filterMap_append

/-- What is abandoned in one stretch and the next is abandoned in both together. -/
theorem abandoned_append (events more : List Event) :
    abandoned (events ++ more) = abandoned events ++ abandoned more :=
  List.filterMap_append

/-- An execution that is to remove its element has it. -/
theorem held_of_holds {rest : Task Outcome} (h : Holds e rest) :
    Execution.held ⟨e, .running rest⟩ = {e} := by
  cases h <;> rfl

/-- The end of an attempt leaves the element with its execution. -/
theorem held_resume (hx : x.Disciplined) (number : Nat) (ending : AttemptEnd) :
    (x.resume number ending).held = x.held := by
  obtain ⟨element, work⟩ := x
  cases work with
  | running rest => rfl
  | awaiting attempt next =>
    by_cases hnumber : attempt = number
    · simp only [Execution.resume, if_pos hnumber]
      exact held_of_holds (hx ending)
    · simp only [Execution.resume, if_neg hnumber]

/-- The elements of a system whose first execution is known. -/
theorem held_eq {others : Multiset Execution} (h : s.executions = x ::ₘ others) :
    s.held = x.held + (s.admitted + others.bind Execution.held) := by
  rw [System.held, h, Multiset.cons_bind, add_left_comm]

/-- What a step that gives no execution up does to the elements that are with a task. -/
theorem Step.held (hstep : Step config compares s event t) (h : s.Disciplined config)
    (hkept : ∀ e, event ≠ .executionAborted e) :
    s.held + (dispatched [event] : Multiset Element) =
      t.held + ((released [event] : Multiset Element) + (abandoned [event] : Multiset Element)) := by
  have hexecutions := h.executions
  cases hstep with
  | call request => rfl
  | submit htask hperforms => rfl
  | @dispatch effect answer found queue hperforms =>
    cases found with
    | none => rfl
    | some e =>
      change s.admitted + _ + {e} = e ::ₘ s.admitted + _ + 0
      rw [add_zero, Multiset.cons_add, ← Multiset.singleton_add, add_comm]
  | @begin e others seen helement =>
    have hheld := held_of_holds (execute_holds config compares e seen)
    have hs : s.held = {e} + (others + s.executions.bind Execution.held) := by
      rw [System.held, helement, Multiset.cons_add, Multiset.singleton_add]
    rw [hs, held_eq rfl, hheld]
    rfl
  | @execute e rest rest' others effect answer queue htask hperforms =>
    rw [htask, Multiset.forall_mem_cons] at hexecutions
    obtain ⟨hanswers⟩ := hperforms
    cases hexecutions.1.holds with
    | keep heffect hnext =>
      rcases heffect with houtside | rfl | rfl
      · have hreleased : released [.executing e _ answer] = [] :=
          List.filterMap_cons_none (released?_of_outside houtside answer)
        rw [held_eq htask, held_eq rfl, held_of_holds (hnext answer), hreleased]
        rfl
      · cases answer
      · cases hanswers with
        | outside h _ _ => cases h
    | release hnext =>
      cases hanswers with
      | release _ _ =>
        rw [held_eq htask, held_eq rfl, hnext]
        change {e} + (s.admitted + _) + 0 = 0 + (s.admitted + _) + ({e} + 0)
        rw [add_zero, add_zero, zero_add, add_comm]
      | outside h _ _ => cases h
  | beginAttempt htask =>
    rw [held_eq htask, held_eq rfl]
    rfl
  | @endAttempt a others ending hattempt =>
    have hresumed : (s.executions.bind fun x => (x.resume a.number ending).held) =
        s.executions.bind Execution.held :=
      Multiset.bind_congr fun x hx => held_resume (hexecutions x hx) a.number ending
    simp only [System.held, Multiset.bind_map, hresumed]
    rfl
  | finish htask =>
    rw [held_eq htask]
    change 0 + (s.admitted + _) + 0 = s.admitted + _ + 0
    rw [zero_add]
  | breakDown htask =>
    rw [held_eq htask]
    change {_} + (s.admitted + _) + 0 = s.admitted + _ + (0 + {_})
    rw [add_zero, zero_add, add_comm]
  | @abort x others htask => exact absurd rfl (hkept x.element)

end BenchQueue.Scheduling
