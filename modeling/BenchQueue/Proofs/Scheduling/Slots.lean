import BenchQueue.Proofs.Scheduling.Change
import BenchQueue.Proofs.Scheduling.Queue

/-!
# Slots and attempts

In every run the tasks with a slot and the attempts in progress belong to executing elements of the
queue, each to one of its own. An attempt whose execution was given up still counts: its element
stays in the queue and keeps its slot. So the attempts are at most as many as the slots.
-/

namespace BenchQueue.Scheduling

variable {config : Config} {compares : Bool} {s t : System} {event : Event} {events : List Event}
  {e : Element} {limit : Nat}

/-- The slots and the attempts of a system are accounted for. `claims` says that attempts and idle
tasks take executing elements of their own. -/
structure System.Accounted (limit : Nat) (s : System) : Prop where
  queue : s.queue.WellFormed limit
  holders : s.idle + s.awaited.map (·.1) ≤ (s.queue.executing : Multiset Element)
  claims : s.attempts.map (·.identifier) + s.idle.map (·.identifier) ≤
    (s.queue.executing : Multiset Element).map (·.identifier)
  awaited : s.awaited.map attemptAt ≤ s.attempts
  numbers : (s.attempts.map (·.number)).Nodup
  begun : ∀ a ∈ s.attempts, a.number < s.begun

/-- No slot is taken before the first step. -/
theorem accounted_start (limit : Nat) : ({} : System).Accounted limit :=
  { queue := Queue.wellFormed_empty limit
    holders := le_rfl
    claims := le_rfl
    awaited := le_rfl
    numbers := Multiset.nodup_zero
    begun := fun _ ha => absurd ha (Multiset.notMem_zero _) }

/-- A number belongs to one attempt. -/
theorem filter_number_eq {a : Attempt} {others : Multiset Attempt}
    (h : ((a ::ₘ others).map (·.number)).Nodup) :
    (a ::ₘ others).filter (·.number = a.number) = {a} ∧
      (a ::ₘ others).filter (·.number ≠ a.number) = others := by
  rw [Multiset.map_cons, Multiset.nodup_cons] at h
  have hother : ∀ b ∈ others, b.number ≠ a.number := fun b hb heq =>
    h.1 (Multiset.mem_map.mpr ⟨b, hb, heq⟩)
  constructor
  · rw [Multiset.filter_cons_of_pos (p := fun b => b.number = a.number) others rfl,
      Multiset.filter_eq_nil.mpr hother]
    rfl
  · rw [Multiset.filter_cons_of_neg (p := fun b => b.number ≠ a.number) others (not_not.mpr rfl),
      Multiset.filter_eq_self.mpr hother]

/-- An idle task has the slot of an executing element. -/
theorem System.Accounted.mem_executing (h : s.Accounted limit) (hidle : e ∈ s.idle) :
    e ∈ s.queue.elements ∧ e.executing = true := by
  refine Queue.mem_executing.mp (Multiset.mem_coe.mp (Multiset.mem_of_le h.holders ?_))
  exact Multiset.mem_add.mpr (Or.inl hidle)

/-- A step keeps the slots and the attempts accounted for. -/
theorem System.Accounted.step (h : s.Accounted config.maxConcurrentJobs.toNat)
    (hchange : Change config s event t) : t.Accounted config.maxConcurrentJobs.toNat := by
  have hexecutes (e : Element) : e ∈ s.idle → e ∈ s.queue.elements ∧ e.executing = true :=
    h.mem_executing
  obtain ⟨hqueue, hholders, hclaims, hawaits, hnumbers, hfresh⟩ := h
  cases hchange with
  | quiet hq hidle hawaited hattempts hbegun =>
    constructor
    · rwa [hq]
    · rw [hq]
      exact (add_le_add hidle (Multiset.map_le_map hawaited)).trans hholders
    · rw [hq, hattempts]
      exact (add_le_add le_rfl (Multiset.map_le_map hidle)).trans hclaims
    · rw [hattempts]
      exact (Multiset.map_le_map hawaited).trans hawaits
    · rwa [hattempts]
    · rwa [hattempts, hbegun]
  | submit request hq hidle hawaited hattempts hbegun =>
    have hexecuting : t.queue.executing = s.queue.executing := by
      rw [hq, Queue.executing_submit]
    constructor
    · rw [hq]
      exact hqueue.submit
    · rwa [hexecuting, hidle, hawaited]
    · rwa [hexecuting, hidle, hattempts]
    · rwa [hawaited, hattempts]
    · rwa [hattempts]
    · rwa [hattempts, hbegun]
  | @dispatch _ e hq hidle hawaited hattempts hbegun =>
    have hexecuting : (t.queue.executing : Multiset Element) = e ::ₘ s.queue.executing :=
      Multiset.coe_eq_coe.mpr (hqueue.executing_dispatch hq)
    constructor
    · exact hqueue.dispatch hq
    · rw [hexecuting, hidle, hawaited, Multiset.cons_add]
      exact Multiset.cons_le_cons e hholders
    · rw [hexecuting, hidle, hattempts, Multiset.map_cons, Multiset.map_cons, Multiset.add_cons]
      exact Multiset.cons_le_cons _ hclaims
    · rwa [hawaited, hattempts]
    · rwa [hattempts]
    · rwa [hattempts, hbegun]
  | @release _ e hq hidle hawaited hattempts hbegun =>
    obtain ⟨helement, hexec⟩ := hexecutes e (hidle ▸ Multiset.mem_cons_self e t.idle)
    have hexecuting : (s.queue.executing : Multiset Element) = e ::ₘ t.queue.executing := by
      rw [hq]
      exact Multiset.coe_eq_coe.mpr (hqueue.executing_release helement hexec)
    constructor
    · rw [hq]
      exact hqueue.release helement hexec
    · rw [hexecuting, hidle, Multiset.cons_add, Multiset.cons_le_cons_iff] at hholders
      rwa [hawaited]
    · rw [hexecuting, hidle, Multiset.map_cons, Multiset.map_cons, Multiset.add_cons,
        Multiset.cons_le_cons_iff] at hclaims
      rwa [hattempts]
    · rwa [hawaited, hattempts]
    · rwa [hattempts]
    · rwa [hattempts, hbegun]
  | @beginAttempt _ e hq hidle hawaited hattempts hbegun =>
    constructor
    · rwa [hq]
    · rw [hq, hawaited, Multiset.map_cons, Multiset.add_cons]
      rwa [hidle, Multiset.cons_add] at hholders
    · rw [hq, hattempts, Multiset.map_cons, Multiset.cons_add]
      rwa [hidle, Multiset.map_cons, Multiset.add_cons] at hclaims
    · rw [hawaited, hattempts, Multiset.map_cons]
      exact Multiset.cons_le_cons _ hawaits
    · rw [hattempts, Multiset.map_cons, Multiset.nodup_cons]
      refine ⟨fun hmem => ?_, hnumbers⟩
      obtain ⟨a, ha, heq⟩ := Multiset.mem_map.mp hmem
      have hlt := hfresh a ha
      have hnumber : a.number = s.begun := heq
      omega
    · rw [hattempts, hbegun]
      refine Multiset.forall_mem_cons.mpr ⟨Nat.lt_succ_self _, fun a ha => ?_⟩
      exact Nat.lt_succ_of_lt (hfresh a ha)
  | @endAttempt _ a ending hq hidle hawaited hattempts hbegun =>
    rw [hattempts] at hnumbers hawaits hclaims hfresh
    obtain ⟨hone, hrest⟩ := filter_number_eq hnumbers
    -- Only the task of this attempt may have waited for its number.
    have hended : (s.awaited.filter (·.2 = a.number)).map attemptAt ≤ {a} := by
      have hle := Multiset.filter_le_filter (·.number = a.number) hawaits
      rwa [hone, Multiset.filter_map] at hle
    have hstill : (s.awaited.filter (·.2 ≠ a.number)).map attemptAt ≤ t.attempts := by
      have hle := Multiset.filter_le_filter (·.number ≠ a.number) hawaits
      rwa [hrest, Multiset.filter_map] at hle
    have hidentifiers : ((s.awaited.filter (·.2 = a.number)).map (·.1)).map (·.identifier) ≤
        {a.identifier} := by
      have hle := Multiset.map_le_map (f := Attempt.identifier) hended
      rw [Multiset.map_map, Multiset.map_singleton] at hle
      rwa [Multiset.map_map]
    constructor
    · rwa [hq]
    · rw [hq, hidle, hawaited, add_assoc, ← Multiset.map_add, Multiset.filter_add_not]
      exact hholders
    · rw [hq, hidle, Multiset.map_add]
      refine le_trans ?_ hclaims
      rw [Multiset.map_cons, Multiset.cons_add, ← Multiset.singleton_add, ← add_assoc, add_comm]
      exact add_le_add hidentifiers le_rfl
    · rwa [hawaited]
    · rw [Multiset.map_cons, Multiset.nodup_cons] at hnumbers
      exact hnumbers.2
    · rw [hbegun]
      exact fun b hb => hfresh b (Multiset.mem_cons_of_mem hb)

/-- In every run the slots and the attempts are accounted for. -/
theorem Reaches.accounted (hrun : Reaches config compares events s) :
    s.Accounted config.normalized.maxConcurrentJobs.toNat := by
  induction hrun with
  | start => exact accounted_start _
  | step hrun hstep ih => exact ih.step (hstep.change hrun.disciplined)

end BenchQueue.Scheduling
