import BenchQueue.Proofs.Scheduling.Balance
import BenchQueue.Scheduling.Dispatcher

/-!
# The dispatch loop among the other tasks

The loop is one more task: it hands elements out, begins their executions and, once it is told to
stop, waits for them and gives them up after the grace period. Between its requests all other tasks
go on. Seen without the loop, such a service is a scheduler like any other.
-/

namespace BenchQueue.Scheduling

/-- Whether a step is one of the dispatch loop. -/
def Event.OfLoop : Event → Prop
  | .dispatched _ | .executionBegan _ | .executionAborted _ => True
  | _ => False

/-- The answers to the requests of the loop that change nothing. What it hears about the executions
is true; the clock, the signal and a wait may answer anything. -/
inductive Observes : (effect : Effect) → System → effect.Answer → Prop
  | wait (limit : Option Instant) (seen : Option Nat) (wake : Wake) (s : System) :
      Observes (.wait limit seen) s wake
  | instant (now : Instant) (s : System) : Observes .instant s now
  | signal (value : Signal) (s : System) : Observes .signal s value
  | hasExecutions {s : System} (any : Bool) (h : any = false → s.executions = 0) :
      Observes .hasExecutions s any
  | awaitExecutions (limit : Option Instant) {s : System} (ended : Bool)
      (h : ended = true ↔ s.executions = 0) : Observes (.awaitExecutions limit) s ended
  | abortExecutions {s : System} (h : s.executions = 0) : Observes .abortExecutions s ()

/-- A scheduler with its dispatch loop: what is left of the current round, or nothing once the loop has
returned, and what the loop has asked and been answered. -/
structure Service where
  system : System := {}
  loop : Option (Task (Option Dispatcher))
  asked : List (Flow.Exchange Effects) := []

/-- A service before the first request of its loop. -/
def Service.start (seen : Nat) : Service :=
  { loop := some ((Dispatcher.start seen).bind fun d => .done (some d)) }

/-- One step of the loop or of another task. Only the loop hands elements out, begins executions and
gives them up, and it gives up only those that are not over. -/
inductive Service.Step (config : Config) (compares : Bool) : Service → Option Event → Service → Prop
  | other {v : Service} {event : Event} {system : System}
      (hstep : Scheduling.Step config compares v.system event system) (hother : ¬ event.OfLoop) :
      Step config compares v (some event) { v with system }
  | observe {v : Service} {effect : Effect} {next : effect.Answer → Task (Option Dispatcher)}
      {answer : effect.Answer} (hloop : v.loop = some (Flow.ask effect next))
      (h : Observes effect v.system answer) :
      Step config compares v none
        { v with loop := some (next answer), asked := v.asked ++ [⟨effect, answer⟩] }
  | dispatch {v : Service} {next : Option Element → Task (Option Dispatcher)}
      {found : Option Element} {system : System}
      (hloop : v.loop = some (Flow.ask (Effect.dispatch config.maxConcurrentJobs.toNat) next))
      (hstep : Scheduling.Step config compares v.system (.dispatched found) system) :
      Step config compares v (some (.dispatched found))
        { system, loop := some (next found)
          asked := v.asked ++ [⟨Effect.dispatch config.maxConcurrentJobs.toNat, found⟩] }
  | begin {v : Service} {e : Element} {seen : Nat} {next : Unit → Task (Option Dispatcher)}
      {others : Multiset Element} (hloop : v.loop = some (Flow.ask (Effect.beginExecution e seen) next))
      (helement : v.system.admitted = e ::ₘ others) :
      Step config compares v (some (.executionBegan e))
        { system := { v.system with
            admitted := others,
            executions := ⟨e, .running (execute config compares e seen)⟩ ::ₘ v.system.executions }
          loop := some (next ()), asked := v.asked ++ [⟨Effect.beginExecution e seen, ()⟩] }
  | abort {v : Service} {next : Unit → Task (Option Dispatcher)} {x : Execution}
      {others : Multiset Execution} (hloop : v.loop = some (Flow.ask Effect.abortExecutions next))
      (htask : v.system.executions = x ::ₘ others) (hheld : x.held = {x.element}) :
      Step config compares v (some (.executionAborted x.element))
        { v with system := { v.system with executions := others } }
  | round {v : Service} {d : Dispatcher} (hloop : v.loop = some (Flow.done (some d))) :
      Step config compares v none { v with loop := some (d.round config) }
  | stop {v : Service} (hloop : v.loop = some (Flow.done none)) :
      Step config compares v none { v with loop := none }

/-- What can be seen of a run of a service, and where it leads. -/
inductive Service.Reaches (config : Config) (compares : Bool) (seen : Nat) :
    List Event → Service → Prop
  | start : Reaches config compares seen [] (Service.start seen)
  | step {events : List Event} {v w : Service} {event : Option Event}
      (hrun : Reaches config compares seen events v)
      (hstep : Step config.normalized compares v event w) :
      Reaches config compares seen (events ++ event.toList) w

variable {config : Config} {compares : Bool} {seen : Nat} {events : List Event} {event : Event}
  {s t : System} {v w : Service}

/-- Every step of a service is a step of its scheduler or leaves the scheduler as it is. -/
theorem Service.Step.system {event : Option Event} (hstep : Service.Step config compares v event w) :
    (event = none ∧ w.system = v.system) ∨
      ∃ seen, event = some seen ∧ Scheduling.Step config compares v.system seen w.system := by
  cases hstep with
  | other hstep _ => exact Or.inr ⟨_, rfl, hstep⟩
  | observe _ _ | round _ | stop _ => exact Or.inl ⟨rfl, rfl⟩
  | dispatch _ hstep => exact Or.inr ⟨_, rfl, hstep⟩
  | begin _ helement => exact Or.inr ⟨_, rfl, .begin _ helement⟩
  | abort _ htask _ => exact Or.inr ⟨_, rfl, .abort htask⟩

/-- What holds in every run of a scheduler holds in every run of a service. -/
theorem Service.Reaches.system (hrun : Service.Reaches config compares seen events v) :
    Scheduling.Reaches config compares events v.system := by
  induction hrun with
  | start => exact .start
  | step _ hstep ih =>
    rcases hstep.system with ⟨rfl, hsame⟩ | ⟨seen, rfl, hseen⟩
    · rw [hsame, Option.toList_none, List.append_nil]
      exact ih
    · exact ih.step hseen

/-- The other tasks hand nothing out and begin no execution. -/
theorem Step.of_other (hstep : Step config compares s event t) (hother : ¬ event.OfLoop) :
    t.admitted = s.admitted ∧ (s.executions = 0 → t.executions = 0) := by
  cases hstep with
  | call _ => exact ⟨rfl, id⟩
  | submit _ _ => exact ⟨rfl, id⟩
  | dispatch _ | begin _ _ | abort _ => exact absurd trivial hother
  | endAttempt ending _ => exact ⟨rfl, fun hnone => by simp only [hnone, Multiset.map_zero]⟩
  | execute htask _ | beginAttempt htask | finish htask | breakDown htask =>
    exact ⟨rfl, fun hnone => absurd (htask.symm.trans hnone) (Multiset.cons_ne_zero)⟩

end BenchQueue.Scheduling
