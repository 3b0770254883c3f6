import BenchQueue.Proofs.Run.Filter
import BenchQueue.Proofs.Scheduling.Ceiling

/-!
# The same work in the queue

The queue tells requests apart by their identifiers, the store by the filters of their identifiers.
In every run the two agree on all elements and all attempts in progress but the planner variants of
one micro benchmark: these are the same work for the store and different elements of the queue.
-/

namespace BenchQueue.Scheduling

open BenchQueue.Run (Filter)

variable {config : Config} {compares : Bool} {events : List Event} {s : System} {limit : Nat}

/-- Distinct elements of a queue have distinct identifiers. -/
theorem Queue.WellFormed.identifier_ne {q : Queue} (hq : q.WellFormed limit) {a b : Element}
    (ha : a ∈ q.elements) (hb : b ∈ q.elements) (hne : a ≠ b) : a.identifier ≠ b.identifier :=
  fun hsame => hne (List.inj_on_of_nodup_map hq.keys ha hb hsame)

/-- Distinct attempts in progress have distinct identifiers. -/
theorem System.Accounted.identifier_ne (h : s.Accounted limit) {a b : Attempt}
    (ha : a ∈ s.attempts) (hb : b ∈ s.attempts) (hne : a ≠ b) : a.identifier ≠ b.identifier := by
  have hkeys : (s.queue.executing.map (·.identifier)).Nodup :=
    h.queue.keys.sublist (List.filter_sublist.map _)
  have hdistinct : (s.attempts.map (·.identifier)).Nodup :=
    Multiset.nodup_of_le h.attempts_le (Multiset.coe_nodup.mpr hkeys)
  exact fun hsame => hne (Multiset.inj_on_of_nodup_map hdistinct a ha b hb hsame)

/-- At every moment of every run, no identifier is queued or attempted twice, and a record that is
created for one of two elements, or of two attempts in progress, is accepted by the filter of the
other one exactly if they are planner variants of one micro benchmark. -/
theorem same_work_iff_plannerVariant (hrun : Reaches config compares events s) :
    (∀ a ∈ s.queue.elements, ∀ b ∈ s.queue.elements, a ≠ b → a.identifier ≠ b.identifier ∧
      ∀ id now, (Filter.forIdentifier a.identifier).accepts (.created id b.identifier now) = true ↔
        a.identifier.PlannerVariant b.identifier) ∧
    (∀ a ∈ s.attempts, ∀ b ∈ s.attempts, a ≠ b → a.identifier ≠ b.identifier ∧
      ∀ id now, (Filter.forIdentifier a.identifier).accepts (.created id b.identifier now) = true ↔
        a.identifier.PlannerVariant b.identifier) := by
  have haccounted := hrun.accounted
  constructor
  · intro a ha b hb hne
    have hidentifier := haccounted.queue.identifier_ne ha hb hne
    exact ⟨hidentifier, fun _ _ => Filter.forIdentifier_matches_other_iff hidentifier⟩
  · intro a ha b hb hne
    have hidentifier := haccounted.identifier_ne ha hb hne
    exact ⟨hidentifier, fun _ _ => Filter.forIdentifier_matches_other_iff hidentifier⟩

/-! ## Two planners -/

/-- A request for one micro benchmark with a planner. -/
def plannerRequest (planner : String) : Request :=
  { microRequest "4be2a1f" with
    identifier := { (microRequest "4be2a1f").identifier with plannerVersion := planner } }

/-- The executing element of such a request. -/
def plannerElement (planner : String) (serial : Nat) : Element :=
  { plannerRequest planner with retry := 0, executing := true, serial }

/-- With two slots, a micro benchmark can be attempted with two planners at once. -/
theorem reaches_two_planners : ∃ events s,
    Reaches { maxConcurrentJobs := 2 } true events s ∧
      s.queue.elements = [plannerElement "Gen4" 0, plannerElement "V3" 1] ∧
      s.attempts = attemptAt (plannerElement "Gen4" 0, 1) ::ₘ
        attemptAt (plannerElement "V3" 1, 0) ::ₘ 0 := by
  let a := plannerElement "Gen4" 0
  let b := plannerElement "V3" 1
  have hstart : Deployment.Reaches { maxConcurrentJobs := 2 } true Run.defaultDeadline [] {} := .start
  have hone := hstart.submit (plannerRequest "Gen4") ⟨[a.waiting], 0, 1⟩ (unfinished_empty _) rfl
  have htwo := hone.submit (plannerRequest "V3") ⟨[a.waiting, b.waiting], 0, 2⟩
    (unfinished_empty _) rfl
  have hadmitted := htwo.handOut a ⟨[a, b.waiting], 1, 2⟩ rfl
  have hboth := hadmitted.handOut b ⟨[a, b], 2, 2⟩ rfl
  obtain ⟨_, _, hfirst, -⟩ := hboth.attempt
  obtain ⟨_, _, hsecond, -⟩ := hfirst.attempt
  exact ⟨_, _, hsecond.system, rfl, rfl⟩

/-- The two elements with different planners are found to be the same work. -/
theorem same_work_iff_plannerVariant_planners : ∃ events s,
    Reaches { maxConcurrentJobs := 2 } true events s ∧
      s.queue.elements = [plannerElement "Gen4" 0, plannerElement "V3" 1] ∧
      ∀ id now, (Filter.forIdentifier (plannerElement "Gen4" 0).identifier).accepts
        (.created id (plannerElement "V3" 1).identifier now) = true ↔
          (plannerElement "Gen4" 0).identifier.PlannerVariant (plannerElement "V3" 1).identifier := by
  obtain ⟨events, s, hrun, helements, -⟩ := reaches_two_planners
  have hsame := (same_work_iff_plannerVariant hrun).1 (plannerElement "Gen4" 0)
    (by rw [helements]; exact List.mem_cons_self) (plannerElement "V3" 1)
    (by rw [helements]; exact List.mem_cons_of_mem _ List.mem_cons_self) (by decide)
  exact ⟨events, s, hrun, helements, hsame.2⟩

/-- So two elements of a queue with different identifiers may be the same work for the store, and
both be attempted at once. -/
theorem same_work_attempted_twice : ∃ events s,
    Reaches { maxConcurrentJobs := 2 } true events s ∧
      s.queue.elements = [plannerElement "Gen4" 0, plannerElement "V3" 1] ∧
      (plannerElement "Gen4" 0).identifier ≠ (plannerElement "V3" 1).identifier ∧
      (∀ id now, (Filter.forIdentifier (plannerElement "Gen4" 0).identifier).accepts
        (.created id (plannerElement "V3" 1).identifier now) = true) ∧
      s.attempts.map (·.identifier) =
        (plannerElement "Gen4" 0).identifier ::ₘ (plannerElement "V3" 1).identifier ::ₘ 0 := by
  obtain ⟨events, s, hrun, helements, hattempts⟩ := reaches_two_planners
  have hvariant : (plannerElement "Gen4" 0).identifier.PlannerVariant
      (plannerElement "V3" 1).identifier :=
    ⟨Run.Kind.ofType_microType, by decide, rfl⟩
  have hne : (plannerElement "Gen4" 0).identifier ≠ (plannerElement "V3" 1).identifier := by decide
  refine ⟨events, s, hrun, helements, hne, fun _ _ => ?_, by rw [hattempts]; rfl⟩
  exact (Filter.forIdentifier_matches_other_iff hne).mpr hvariant

end BenchQueue.Scheduling
