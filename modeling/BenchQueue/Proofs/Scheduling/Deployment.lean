import BenchQueue.Proofs.Flow
import BenchQueue.Proofs.Scheduling.Interleaving
import BenchQueue.Run.Executor
import BenchQueue.Store.Memory

/-!
# A scheduler with its records

The attempts of a scheduler execute runs, and the submissions and the runs share one store in memory.
A request to the store is answered from the records of that moment; everything else may be answered
in any way. Seen without the records, such a system is a scheduler like any other.
-/

namespace BenchQueue.Scheduling

open BenchQueue.Store (Memory Call)

/-- The answers to an effect, with the records before and after it. -/
inductive Replies : (effect : Effect) → Memory → effect.Answer → Memory → Prop
  | store (call : Call) (m : Memory) : Replies (.store call) m (m.answer call).1 (m.answer call).2
  | other {effect : Effect} (h : ∀ call, effect ≠ .store call) (answer : effect.Answer)
      (m : Memory) : Replies effect m answer m

/-- How a step of a scheduler acts on the records. Attempts are not steps of the scheduler alone. -/
def Event.Replied (event : Event) (m m' : Memory) : Prop :=
  match event with
  | .submitting effect answer | .executing _ effect answer => Replies effect m answer m'
  | .attemptBegan _ | .attemptEnded _ _ => False
  | .called _ | .dispatched _ | .executionBegan _ | .executionEnded _ _ | .executionPanicked _
  | .executionAborted _ => m' = m

/-- A scheduler, the records, and what is left of the run of each attempt in progress. -/
structure Deployment where
  system : System := {}
  memory : Memory := {}
  runs : Multiset (Nat × Task (Except Run.Error Unit)) := 0

/-- One step of the scheduler or of the run of one attempt; the latter is not seen. -/
inductive Deployment.Step (config : Config) (compares : Bool) (deadline : Duration) :
    Deployment → Option Event → Deployment → Prop
  | schedule {d : Deployment} {event : Event} {system : System} {memory : Memory}
      (hstep : Scheduling.Step config compares d.system event system)
      (hreplied : event.Replied d.memory memory) :
      Step config compares deadline d (some event) { d with system, memory }
  | beginAttempt {d : Deployment} {a : Attempt} {system : System}
      (hstep : Scheduling.Step config compares d.system (.attemptBegan a) system) :
      Step config compares deadline d (some (.attemptBegan a))
        { d with system,
                 runs := (a.number, Run.executeFile deadline a.identifier a.configPath) ::ₘ d.runs }
  | work {d : Deployment} {number : Nat} {effect : Effect}
      {next : effect.Answer → Task (Except Run.Error Unit)} {answer : effect.Answer}
      {memory : Memory} {others : Multiset (Nat × Task (Except Run.Error Unit))}
      (hrun : d.runs = (number, Flow.ask effect next) ::ₘ others)
      (hreplies : Replies effect d.memory answer memory) :
      Step config compares deadline d none
        { d with memory, runs := (number, next answer) ::ₘ others }
  | endAttempt {d : Deployment} {a : Attempt} {result : Except Run.Error Unit} {system : System}
      {others : Multiset (Nat × Task (Except Run.Error Unit))}
      (hrun : d.runs = (a.number, Flow.done result) ::ₘ others)
      (hstep : Scheduling.Step config compares d.system (.attemptEnded a (.returned result)) system) :
      Step config compares deadline d (some (.attemptEnded a (.returned result)))
        { d with system, runs := others }
  | breakDown {d : Deployment} {a : Attempt} {run : Task (Except Run.Error Unit)} {system : System}
      {others : Multiset (Nat × Task (Except Run.Error Unit))}
      (hrun : d.runs = (a.number, run) ::ₘ others)
      (hstep : Scheduling.Step config compares d.system (.attemptEnded a .panicked) system) :
      Step config compares deadline d (some (.attemptEnded a .panicked))
        { d with system, runs := others }

/-- What can be seen of a run of the whole, and where it leads. -/
inductive Deployment.Reaches (config : Config) (compares : Bool) (deadline : Duration) :
    List Event → Deployment → Prop
  | start : Reaches config compares deadline [] {}
  | step {events : List Event} {d d' : Deployment} {event : Option Event}
      (hrun : Reaches config compares deadline events d)
      (hstep : Step config.normalized compares deadline d event d') :
      Reaches config compares deadline (events ++ event.toList) d'

variable {config : Config} {compares : Bool} {deadline : Duration} {events : List Event}
  {d d' : Deployment}

/-- Every step of the whole is a step of its scheduler or leaves the scheduler as it is. -/
theorem Deployment.Step.system {event : Option Event}
    (hstep : Deployment.Step config compares deadline d event d') :
    (event = none ∧ d'.system = d.system) ∨
      ∃ seen, event = some seen ∧ Scheduling.Step config compares d.system seen d'.system := by
  cases hstep with
  | schedule hstep _ => exact Or.inr ⟨_, rfl, hstep⟩
  | beginAttempt hstep => exact Or.inr ⟨_, rfl, hstep⟩
  | work _ _ => exact Or.inl ⟨rfl, rfl⟩
  | endAttempt _ hstep => exact Or.inr ⟨_, rfl, hstep⟩
  | breakDown _ hstep => exact Or.inr ⟨_, rfl, hstep⟩

/-- What holds in every run of a scheduler holds in every run of a scheduler with its records. -/
theorem Deployment.Reaches.system (hrun : Deployment.Reaches config compares deadline events d) :
    Scheduling.Reaches config compares events d.system := by
  induction hrun with
  | start => exact .start
  | step _ hstep ih =>
    rcases hstep.system with ⟨rfl, hsame⟩ | ⟨seen, rfl, hseen⟩
    · rw [hsame, Option.toList_none, List.append_nil]
      exact ih
    · exact ih.step hseen

end BenchQueue.Scheduling
