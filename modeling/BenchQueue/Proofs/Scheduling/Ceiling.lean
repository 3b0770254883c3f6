import BenchQueue.Proofs.Scheduling.Runs
import BenchQueue.Proofs.Scheduling.Slots

/-!
# The ceiling for attempts

In every run at most as many attempts are in progress as there are slots, and no two of them are for
the same identifier. This includes attempts whose executions were given up.
-/

namespace BenchQueue.Scheduling

variable {config : Config} {compares : Bool} {events : List Event} {s : System}

/-- Attempts have identifiers of executing elements, each one of its own. -/
theorem System.Accounted.attempts_le {limit : Nat} (h : s.Accounted limit) :
    s.attempts.map (·.identifier) ≤ (s.queue.executing : Multiset Element).map (·.identifier) :=
  (Multiset.le_add_right _ _).trans h.claims

/-- At every moment of every run there are at most as many attempts in progress as the normalized
setting allows, and their identifiers are distinct. -/
theorem attempts_within_ceiling (hrun : Reaches config compares events s) :
    s.attempts.card ≤ config.normalized.maxConcurrentJobs.toNat ∧
      (s.attempts.map (·.identifier)).Nodup := by
  have haccounted := hrun.accounted
  have hle := haccounted.attempts_le
  have hqueue := haccounted.queue
  constructor
  · calc s.attempts.card
        = (s.attempts.map (·.identifier)).card := (Multiset.card_map _ _).symm
      _ ≤ ((s.queue.executing : Multiset Element).map (·.identifier)).card :=
        Multiset.card_le_card hle
      _ = s.queue.inFlight := by
        rw [Multiset.card_map, Multiset.coe_card, hqueue.slots]
      _ ≤ config.normalized.maxConcurrentJobs.toNat := hqueue.ceiling
  · have hkeys : (s.queue.executing.map (·.identifier)).Nodup :=
      hqueue.keys.sublist (List.filter_sublist.map _)
    exact Multiset.nodup_of_le hle (Multiset.coe_nodup.mpr hkeys)

/-- With two slots, two attempts are in progress although one of their executions was given up. -/
theorem attempts_within_ceiling_detached : ∃ events s,
    Reaches { maxConcurrentJobs := 2 } true events s ∧ s.executions.card = 1 ∧
      s.attempts.card = 2 ∧ s.attempts.card ≤ 2 ∧ (s.attempts.map (·.identifier)).Nodup := by
  let a := microElement "4be2a1f" 0
  let b := microElement "90c7d3e" 1
  have hstart : Deployment.Reaches { maxConcurrentJobs := 2 } true Run.defaultDeadline [] {} := .start
  have hone := hstart.submit (microRequest "4be2a1f") ⟨[a], 0, 1⟩ (unfinished_empty _) rfl
  have htwo := hone.submit (microRequest "90c7d3e") ⟨[a, b], 0, 2⟩ (unfinished_empty _) rfl
  have hadmitted := htwo.handOut a.started ⟨[a.started, b], 1, 2⟩ rfl
  have hboth := hadmitted.handOut b.started ⟨[a.started, b.started], 2, 2⟩ rfl
  obtain ⟨_, _, hfirst, -⟩ := hboth.attempt
  obtain ⟨_, _, hsecond, -⟩ := hfirst.attempt
  have haborted := hsecond.abort.system
  exact ⟨_, _, haborted, rfl, rfl, attempts_within_ceiling haborted⟩

end BenchQueue.Scheduling
