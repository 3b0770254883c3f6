import BenchQueue.Proofs.Scheduling.Holding
import BenchQueue.Proofs.Scheduling.Runs
import Mathlib.Logic.Relation
import Mathlib.Tactic.IntervalCases

/-!
# Giving a slot back

While an element executes, other tasks may work on the queue. Its attempts end in any way, and the
random part of a delay is drawn at random. The execution is then sure to end with the removal of
its element and the return of its slot exactly if the retry policy has a delay before each attempt
that the element may use: without one the execution breaks down, and the slot stays taken.
-/

namespace BenchQueue.Scheduling

/-! ## Surroundings of an execution -/

/-- An operation of another task on the queue while an element executes. -/
inductive Moves (config : Config) (e : Element) (q : Queue) : Queue → Prop
  | submit (r : Request) : Moves config e q (q.submit config.defaultRetries r).2
  | dispatch {f : Element} {q' : Queue}
      (h : q.dispatch? config.maxConcurrentJobs.toNat = some (f, q')) : Moves config e q q'
  | release {f : Element} (hf : f ∈ q.executing) (hother : f ≠ e) :
      Moves config e q (q.release f.identifier)

/-- A number that may be drawn. -/
def IsDrawn (x : Float) : Prop := -1.0 ≤ x ∧ x < 1.0

instance (x : Float) : Decidable (IsDrawn x) := inferInstanceAs (Decidable (_ ∧ _))

/-- The answers to an effect as far as the queue is left aside: a draw has its range, everything
else is answered in any way. -/
inductive Drawn : (effect : Effect) → Unit → effect.Answer → Unit → Prop
  | draw {x : Float} (hx : IsDrawn x) : Drawn .draw () x ()
  | other {effect : Effect} (heffect : effect ≠ .draw) (answer : effect.Answer) :
      Drawn effect () answer ()

/-- The answers to an execution: an element is removed at once, and other tasks may work on the
queue until anything else is answered. -/
inductive Executing (config : Config) (e : Element) :
    (effect : Effect) → Queue → effect.Answer → Queue → Prop
  | release (identifier : Run.Identifier) (q : Queue) :
      Executing config e (.release identifier) q () (q.release identifier)
  | other {effect : Effect} {answer : effect.Answer} {q q' : Queue}
      (heffect : ∀ identifier, effect ≠ .release identifier) (hdrawn : Drawn effect () answer ())
      (hmoves : Relation.ReflTransGen (Moves config e) q q') : Executing config e effect q answer q'

/-- The element executes in a consistent queue. -/
structure HasSlot (limit : Nat) (e : Element) (q : Queue) : Prop where
  wellFormed : q.WellFormed limit
  executing : e ∈ q.executing

/-- The element was removed from a queue in which it executed, and its slot was given back. -/
structure GivenBack (limit : Nat) (e : Element) (q q' : Queue) : Prop where
  slot : HasSlot limit e q
  removed : q' = q.release e.identifier
  gone : q'.contains e.identifier = false
  freed : q'.inFlight + 1 = q.inFlight

/-- Whatever number is drawn, there is a delay before an attempt. -/
def HasDelay (p : RetryPolicy) (attempt : UInt32) : Prop :=
  ∀ x, IsDrawn x → (p.delay? (fun bound => bound * x) attempt).isSome

/-- There is a delay before each of the attempts that remain of a budget. -/
def HasDelays (p : RetryPolicy) (budget remaining : Nat) : Prop :=
  ∀ n, budget - remaining < n → n ≤ budget → HasDelay p (UInt32.ofNat n)

variable {α : Type} {config : Config} {e : Element} {q q' : Queue} {limit : Nat} {p : RetryPolicy}

/-! ## The slot -/

/-- No other task takes the slot of an executing element away. -/
theorem HasSlot.moves (h : HasSlot config.maxConcurrentJobs.toNat e q)
    (hmoves : Moves config e q q') :
    HasSlot config.maxConcurrentJobs.toNat e q' := by
  cases hmoves with
  | submit r =>
    refine ⟨h.wellFormed.submit, ?_⟩
    rw [Queue.executing_submit]
    exact h.executing
  | dispatch hdispatch =>
    refine ⟨h.wellFormed.dispatch hdispatch, ?_⟩
    have hperm := h.wellFormed.executing_dispatch hdispatch
    exact hperm.mem_iff.mpr (List.mem_cons_of_mem _ h.executing)
  | release hf hother =>
    obtain ⟨hmem, hexec⟩ := Queue.mem_executing.mp hf
    refine ⟨h.wellFormed.release hmem hexec, ?_⟩
    have hperm := h.wellFormed.executing_release hmem hexec
    exact (List.mem_cons.mp (hperm.mem_iff.mp h.executing)).resolve_left hother.symm

/-- An element keeps its slot whatever other tasks do to the queue. -/
theorem HasSlot.moves_all (h : HasSlot config.maxConcurrentJobs.toNat e q)
    (hmoves : Relation.ReflTransGen (Moves config e) q q') :
    HasSlot config.maxConcurrentJobs.toNat e q' := by
  induction hmoves with
  | refl => exact h
  | tail _ hmove ih => exact ih.moves hmove

/-- An element that has a slot gives it back when it is removed. -/
theorem HasSlot.release (h : HasSlot limit e q) : GivenBack limit e q (q.release e.identifier) := by
  obtain ⟨hmem, hexec⟩ := Queue.mem_executing.mp h.executing
  have hslots := (h.wellFormed.executing_release hmem hexec).length_eq
  have hfreed := (h.wellFormed.release hmem hexec).slots
  refine ⟨h, rfl, ?_, ?_⟩
  · simp [Queue.contains, Queue.release]
  · rw [hfreed, h.wellFormed.slots, hslots, List.length_cons]

/-- With its slot an execution gives it back if it does not break down. -/
theorem Holds.achieves {task : Task Outcome} (hholds : Holds e task)
    (hslot : HasSlot config.maxConcurrentJobs.toNat e q)
    (hdrawn : task.Achieves Drawn () fun _ _ => True) :
    task.Achieves (Executing config e) q fun _ q' =>
      ∃ before, GivenBack config.maxConcurrentJobs.toNat e before q' := by
  induction hholds generalizing q with
  | @keep effect next heffect _ ih =>
    have hnot : ∀ identifier, effect ≠ .release identifier := by
      rintro identifier rfl
      rcases heffect with h | h | h <;> cases h
    obtain ⟨⟨answer, ⟨⟩, hanswer⟩, hnext⟩ := hdrawn
    refine ⟨⟨answer, q, .other hnot hanswer .refl⟩, fun a q' h => ?_⟩
    cases h with
    | release _ _ => exact absurd rfl (hnot _)
    | other _ ha hmoves => exact ih a (hslot.moves_all hmoves) (hnext a () ha)
  | release hdone =>
    refine ⟨⟨(), _, .release _ _⟩, fun a q' h => ?_⟩
    cases h with
    | other hnot _ _ => exact absurd rfl (hnot _)
    | release _ _ =>
      rw [hdone]
      exact ⟨q, hslot.release⟩

/-- What is sure while other tasks may work on the queue is sure if they do not. -/
theorem achieves_drawn {task : Task α} {Q : α → Queue → Prop}
    (h : task.Achieves (Executing config e) q Q) : task.Achieves Drawn () fun _ _ => True := by
  induction task generalizing q with
  | done a => trivial
  | ask effect next ih =>
    obtain ⟨⟨answer, q', hanswer⟩, hnext⟩ := h
    constructor
    · cases hanswer with
      | other _ hdrawn _ => exact ⟨answer, (), hdrawn⟩
      | release identifier _ =>
        have hdraw : Effect.release identifier ≠ .draw := nofun
        exact ⟨(), (), .other hdraw ()⟩
    · intro a _ ha
      by_cases hrelease : ∃ identifier, effect = .release identifier
      · obtain ⟨identifier, rfl⟩ := hrelease
        exact ih a (hnext a _ (.release identifier q))
      · exact ih a (hnext a q (.other (fun i hi => hrelease ⟨i, hi⟩) ha .refl))

/-! ## The delays -/

/-- Zero may be drawn. -/
theorem isDrawn_zero : IsDrawn 0.0 := by
  decide +kernel

/-- A request that can be answered in any way is sure to be. -/
theorem achieves_any_iff (effect : Effect) {next : effect.Answer → Task α} {Q : α → Unit → Prop}
    (heffect : effect ≠ .draw) (sample : effect.Answer) :
    (Flow.ask effect next : Task α).Achieves Drawn () Q ↔
      ∀ answer, (next answer).Achieves Drawn () Q := by
  constructor
  · intro h answer
    exact h.2 answer () (.other heffect answer)
  · intro h
    exact ⟨⟨sample, (), .other heffect sample⟩, fun answer _ _ => h answer⟩

/-- Without a random part the delay does not depend on what is drawn. -/
theorem delay?_eq_of_not_lt (hjitter : ¬ 0.0 < p.jitter) (draw draw' : Float → Float)
    (attempt : UInt32) : p.delay? draw attempt = p.delay? draw' attempt := by
  unfold RetryPolicy.delay? RetryPolicy.jittered?
  simp only [if_neg hjitter]

/-- A wait is over at some time, but there must be a delay to wait for. -/
theorem achieves_pause_iff (delay : Option Duration) {Q : Unit → Unit → Prop} :
    (match delay with
      | none => Task.panic
      | some delay => if delay.isZero then pure () else Task.sleep delay : Task Unit).Achieves
        Drawn () Q ↔ delay.isSome ∧ Q () () := by
  cases delay with
  | none =>
    constructor
    · rintro ⟨⟨impossible, -⟩, -⟩
      exact impossible.elim
    · rintro ⟨hsome, -⟩
      cases hsome
  | some delay =>
    simp only [Option.isSome_some, true_and]
    split
    case isTrue => exact Iff.rfl
    case isFalse =>
      refine (achieves_any_iff .instant nofun default).trans ⟨fun h => ?_, fun hQ now => ?_⟩
      · exact (achieves_any_iff (.wait _ none) nofun .elapsed).mp (h default) .elapsed
      · exact (achieves_any_iff (.wait _ none) nofun .elapsed).mpr fun _ => hQ

/-- The wait before an attempt is sure to end exactly if there is a delay. -/
theorem waitBefore_achieves_iff (attempt : UInt32) {Q : Unit → Unit → Prop} :
    (waitBefore p attempt).Achieves Drawn () Q ↔ HasDelay p attempt ∧ Q () () := by
  unfold waitBefore
  by_cases hjitter : 0.0 < p.jitter
  · rw [if_pos hjitter]
    constructor
    · intro h
      have hdraw x (hx : IsDrawn x) := (achieves_pause_iff _).mp (h.2 x () (.draw hx))
      exact ⟨fun x hx => (hdraw x hx).1, (hdraw 0.0 isDrawn_zero).2⟩
    · rintro ⟨hdelay, hQ⟩
      refine ⟨⟨0.0, (), .draw isDrawn_zero⟩, fun x _ hx => ?_⟩
      cases hx with
      | other hnot _ => exact absurd rfl hnot
      | draw hx => exact (achieves_pause_iff _).mpr ⟨hdelay x hx, hQ⟩
  · rw [if_neg hjitter]
    refine (achieves_pause_iff _).trans (and_congr_left fun _ => ?_)
    constructor
    · intro hsome x _
      rw [delay?_eq_of_not_lt hjitter _ fun bound => bound * 0.0]
      exact hsome
    · exact fun hdelay => hdelay 0.0 isDrawn_zero

/-- The delays before the attempts that remain are the one before the next attempt and those before
the others. -/
theorem hasDelays_succ {budget remaining : Nat} (hle : remaining < budget) :
    HasDelays p budget (remaining + 1) ↔
      HasDelay p (UInt32.ofNat (budget - remaining)) ∧ HasDelays p budget remaining := by
  constructor
  · intro h
    exact ⟨h _ (by omega) (by omega), fun n hlt hn => h n (by omega) hn⟩
  · rintro ⟨hnext, hothers⟩ n hlt hn
    rcases Nat.eq_or_lt_of_le (show budget - remaining ≤ n by omega) with rfl | hlater
    · exact hnext
    · exact hothers n hlater hn

/-- What is left of the attempts when one of them has ended. -/
def afterAttempt (p : RetryPolicy) (e : Element) (budget remaining : Nat) :
    AttemptEnd → Task Outcome
  | .returned (.ok ()) => .done (.succeeded (budget - remaining))
  | .returned (.error _) | .panicked => attempts p e budget remaining

/-- While attempts remain, the next one is waited for, made, and followed by the rest. -/
theorem attempts_succ (p : RetryPolicy) (e : Element) (budget remaining : Nat) :
    attempts p e budget (remaining + 1) =
      (waitBefore p (UInt32.ofNat (budget - remaining))).bind fun _ =>
        Flow.ask (.attempt e.identifier e.configPath) (afterAttempt p e budget remaining) := by
  rw [attempts]
  congr 1
  funext _
  refine congrArg (Flow.ask _) (funext fun ending => ?_)
  cases ending with
  | panicked => rfl
  | returned result => cases result <;> rfl

/-- The attempts are sure to end exactly if there is a delay before each of them: all but the last
one may fail. -/
theorem attempts_achieves_iff (budget remaining : Nat) (hle : remaining ≤ budget) :
    (attempts p e budget remaining).Achieves Drawn () (fun _ _ => True) ↔
      HasDelays p budget remaining := by
  induction remaining with
  | zero => exact ⟨fun _ n hlt hn => absurd hlt (by omega), fun _ => trivial⟩
  | succ remaining ih =>
    have hlater := ih (by omega)
    rw [attempts_succ, Flow.achieves_bind_iff, hasDelays_succ hle]
    refine (waitBefore_achieves_iff _).trans (and_congr_right fun _ => ?_)
    refine (achieves_any_iff (.attempt e.identifier e.configPath) nofun .panicked).trans ?_
    constructor
    · intro hended
      exact hlater.mp (hended .panicked)
    · intro hdelays ending
      cases ending with
      | panicked => exact hlater.mpr hdelays
      | returned result =>
        cases result with
        | ok _ => trivial
        | error _ => exact hlater.mpr hdelays

/-- The start of a comparison comes to an end. -/
theorem startComparison_achieves (compares : Bool) (e : Element) (seen : Nat) :
    (startComparison compares e seen).Achieves Drawn () fun _ _ => True := by
  unfold startComparison
  split
  · exact (achieves_any_iff (.beginComparison _ _ _ _) nofun ()).mpr fun _ => trivial
  · trivial

/-- An execution is sure to end exactly if its attempts are. -/
theorem execute_achieves_iff (config : Config) (compares : Bool) (e : Element) (seen : Nat) :
    (execute config compares e seen).Achieves Drawn () (fun _ _ => True) ↔
      ∀ n, 1 ≤ n → n ≤ e.maxAttempts.toNat → HasDelay config.retryPolicy (UInt32.ofNat n) := by
  have hattempts := attempts_achieves_iff (p := config.retryPolicy) (e := e) _ _
    (Nat.le_refl e.maxAttempts.toNat)
  unfold HasDelays at hattempts
  rw [Nat.sub_self] at hattempts
  refine Iff.trans ?_ hattempts
  refine Flow.achieves_bind_iff.trans ⟨fun h => h.mono fun _ _ _ => trivial, fun h => ?_⟩
  refine h.mono fun outcome _ _ => ?_
  have hrelease : (Flow.ask (.release e.identifier) fun _ => .done outcome :
      Task Outcome).Achieves Drawn () fun _ _ => True :=
    (achieves_any_iff (.release _) nofun ()).mpr fun _ => trivial
  cases outcome with
  | succeeded _ => exact (startComparison_achieves compares e seen).bind fun _ _ _ => hrelease
  | exhausted _ => exact hrelease

/-- While other tasks work on the queue and attempts end in any way, an execution is sure to end
with its element removed and its slot given back exactly if the retry policy has a delay before
each attempt that the element may use. -/
theorem execute_gives_back_iff (compares : Bool) (seen : Nat)
    (hslot : HasSlot config.maxConcurrentJobs.toNat e q) :
    (execute config compares e seen).Achieves (Executing config e) q (fun _ q' =>
        ∃ before, GivenBack config.maxConcurrentJobs.toNat e before q') ↔
      ∀ n, 1 ≤ n → n ≤ e.maxAttempts.toNat → HasDelay config.retryPolicy (UInt32.ofNat n) := by
  rw [← execute_achieves_iff config compares e seen]
  exact ⟨achieves_drawn, (execute_holds config compares e seen).achieves hslot⟩

/-- Settings with waits that double, without a limit and without a random part. -/
def doubling : Config :=
  { retryPolicy := { initialInterval := .ofSeconds 1, coefficient := 2.0 } }

/-- An executing element that may be attempted three times. -/
def patientElement : Element :=
  { (microElement "4be2a1f" 0).started with retry := 2 }

/-- The patient element may be the only one that executes. -/
theorem hasSlot_patientElement :
    HasSlot doubling.maxConcurrentJobs.toNat patientElement ⟨[patientElement], 1, 1⟩ where
  wellFormed :=
    { keys := List.nodup_singleton _
      order := List.pairwise_singleton _ _
      fresh := by decide
      slots := by decide
      ceiling := by decide }
  executing := by decide

/-- With waits that double, an element that may be attempted three times is removed and gives its
slot back. -/
theorem execute_gives_back_iff_doubling :
    HasSlot 1 patientElement ⟨[patientElement], 1, 1⟩ ∧
      (execute doubling true patientElement 0).Achieves (Executing doubling patientElement)
        ⟨[patientElement], 1, 1⟩ fun _ q' => ∃ before, GivenBack 1 patientElement before q' := by
  refine ⟨hasSlot_patientElement,
    (execute_gives_back_iff true 0 hasSlot_patientElement).mpr fun n hfirst hlast x _ => ?_⟩
  have hjitter : ¬ 0.0 < doubling.retryPolicy.jitter := by decide +kernel
  rw [delay?_eq_of_not_lt hjitter _ fun bound => bound * 0.0]
  have hlast : n ≤ 3 := hlast
  interval_cases n <;> decide +kernel

end BenchQueue.Scheduling
