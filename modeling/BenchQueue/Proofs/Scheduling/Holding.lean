import BenchQueue.Proofs.Flow
import BenchQueue.Proofs.Scheduling.Interleaving

/-!
# What tasks do to the queue

A submission does nothing to the queue but ask for its request to be accepted. An execution makes
attempts for its own element only, and unless it breaks down it removes this element as its last
request.
-/

namespace BenchQueue.Scheduling

variable {α : Type} {config : Config} {e : Element}

/-! ## Submissions -/

/-- A request that a submission may make. -/
def Submits (config : Config) (effect : Effect) : Prop :=
  isOutside effect = true ∨ ∃ request, effect = .enqueue config.defaultRetries request

/-- A submission asks the queue only to take its request. -/
theorem submit_asks (config : Config) (request : Request) :
    (submit config request).Asks (Submits config) := by
  refine ⟨Or.inl rfl, fun answer => ?_⟩
  cases answer with
  | error cause => trivial
  | ok finished =>
    cases finished with
    | true => trivial
    | false => exact ⟨Or.inr ⟨request, rfl⟩, fun _ => trivial⟩

/-! ## Executions -/

/-- A request after which an execution still has the slot of its element. -/
def KeepsSlot (e : Element) (effect : Effect) : Prop :=
  isOutside effect = true ∨ effect = .panic ∨ effect = .attempt e.identifier e.configPath

/-- The rest of an execution that has the slot of its element: some requests that keep it, then the
removal of the element, and nothing more. -/
inductive Holds (e : Element) : Task Outcome → Prop
  | keep {effect : Effect} {next : effect.Answer → Task Outcome} (heffect : KeepsSlot e effect)
      (hnext : ∀ answer, Holds e (next answer)) : Holds e (Flow.ask effect next)
  | release {next : Unit → Task Outcome} {outcome : Outcome} (hnext : next () = .done outcome) :
      Holds e (Flow.ask (.release e.identifier) next)

/-- Work that keeps the slot may come before work that has it. -/
theorem Holds.bind {task : Task α} {f : α → Task Outcome} (htask : task.Asks (KeepsSlot e))
    (hf : ∀ a, Holds e (f a)) : Holds e (task.bind f) := by
  induction task with
  | done a => exact hf a
  | ask effect next ih => exact .keep htask.1 fun a => ih a (htask.2 a)

/-- A request that an execution may make before it removes its element. -/
inductive Executes (e : Element) : Effect → Prop
  | draw : Executes e .draw
  | instant : Executes e .instant
  | wait (limit : Option Instant) : Executes e (.wait limit none)
  | panic : Executes e .panic
  | attempt : Executes e (.attempt e.identifier e.configPath)
  | beginComparison (seen : Nat) :
      Executes e (.beginComparison e.identifier e.compareWith e.notifyAlways seen)

/-- An execution keeps its slot in every request before the removal. -/
theorem Executes.keepsSlot {effect : Effect} (h : Executes e effect) : KeepsSlot e effect := by
  cases h with
  | draw | instant | wait _ | beginComparison _ => exact Or.inl rfl
  | panic => exact Or.inr (Or.inl rfl)
  | attempt => exact Or.inr (Or.inr rfl)

/-- A task that breaks down asks for nothing else. -/
theorem panic_asks : (Task.panic : Task α).Asks (Executes e) :=
  ⟨.panic, fun impossible => impossible.elim⟩

/-- A pause asks for the clock and a wait at most. -/
theorem pause_asks (d : Duration) :
    (if d.isZero then pure () else Task.sleep d : Task Unit).Asks (Executes e) := by
  split
  · trivial
  · exact ⟨.instant, fun _ => ⟨.wait _, fun _ => trivial⟩⟩

/-- The wait before an attempt keeps to the requests of an execution. -/
theorem waitBefore_asks (p : RetryPolicy) (number : UInt32) :
    (waitBefore p number).Asks (Executes e) := by
  unfold waitBefore
  split <;> simp only [Task.ask, bind, pure, Flow.bind]
  · refine ⟨.draw, fun offset => ?_⟩
    beta_reduce
    split
    · exact panic_asks
    · exact pause_asks _
  · split
    · exact panic_asks
    · exact pause_asks _

/-- The attempts keep to the requests of an execution. -/
theorem attempts_asks (p : RetryPolicy) (e : Element) (budget remaining : Nat) :
    (attempts p e budget remaining).Asks (Executes e) := by
  induction remaining with
  | zero => trivial
  | succ remaining ih =>
    refine Flow.Asks.bind (waitBefore_asks p _) fun _ => ⟨.attempt, fun ending => ?_⟩
    cases ending with
    | panicked => exact ih
    | returned result =>
      cases result with
      | error cause => exact ih
      | ok _ => trivial

/-- The start of a comparison keeps to the requests of an execution. -/
theorem startComparison_asks (compares : Bool) (e : Element) (seen : Nat) :
    (startComparison compares e seen).Asks (Executes e) := by
  unfold startComparison
  split
  · exact ⟨.beginComparison seen, fun _ => trivial⟩
  · trivial

/-- An execution has the slot of its element from its start until it removes the element. -/
theorem execute_holds (config : Config) (compares : Bool) (e : Element) (seen : Nat) :
    Holds e (execute config compares e seen) := by
  have hattempts := (attempts_asks config.retryPolicy e e.maxAttempts.toNat e.maxAttempts.toNat).mono
    fun _ => Executes.keepsSlot
  refine Holds.bind hattempts fun outcome => ?_
  have hrelease : Holds e (Flow.ask (.release e.identifier) fun _ => .done outcome) :=
    .release rfl
  cases outcome with
  | succeeded _ =>
    exact Holds.bind ((startComparison_asks compares e seen).mono fun _ => Executes.keepsSlot)
      fun _ => hrelease
  | exhausted _ => exact hrelease

/-- An execution makes its requests, and the removal of its element is the only other one. -/
theorem execute_asks (config : Config) (compares : Bool) (e : Element) (seen : Nat) :
    (execute config compares e seen).Asks fun effect : Effect =>
      Executes e effect ∨ effect = .release e.identifier := by
  refine Flow.Asks.bind ((attempts_asks _ _ _ _).mono fun _ => Or.inl) fun outcome => ?_
  have hrelease : (Flow.ask (.release e.identifier) fun _ => .done outcome : Task Outcome).Asks
      fun effect : Effect => Executes e effect ∨ effect = .release e.identifier :=
    ⟨Or.inr rfl, fun _ => trivial⟩
  cases outcome with
  | succeeded _ =>
    exact Flow.Asks.bind ((startComparison_asks compares e seen).mono fun _ => Or.inl)
      fun _ => hrelease
  | exhausted _ => exact hrelease

end BenchQueue.Scheduling
