import BenchQueue.Scheduling.Queue
import Mathlib.Data.List.Nodup
import Mathlib.Data.List.Perm.Basic

/-!
# What the operations of the queue keep

Identifiers and serial numbers of a queue are distinct, its elements stand in the order in which
they were accepted, and the slots that are taken are those of the executing elements. Each of the
three operations keeps this; each has one lemma that says how it changes the list of elements.
-/

namespace BenchQueue.Scheduling

/-- The element as it waits. -/
def Element.waiting (e : Element) : Element := { e with executing := false }

/-- The element as it executes. -/
def Element.started (e : Element) : Element := { e with executing := true }

/-- An element that does not execute is as it waits. -/
theorem Element.waiting_of_not_executing {e : Element} (he : e.executing = false) :
    e.waiting = e := by
  cases e
  simp_all [Element.waiting]

/-- An element that executes is as it was started. -/
theorem Element.started_of_executing {e : Element} (he : e.executing = true) :
    e.started = e := by
  cases e
  simp_all [Element.started]

namespace Queue

/-- The executing elements. -/
def executing (q : Queue) : List Element := q.elements.filter (·.executing)

/-- The consistency of a queue with at most `limit` slots. -/
structure WellFormed (q : Queue) (limit : Nat) : Prop where
  keys : (q.elements.map (·.identifier)).Nodup
  order : q.elements.Pairwise fun a b => a.serial < b.serial
  fresh : ∀ e ∈ q.elements, e.serial < q.nextSerial
  slots : q.inFlight = q.executing.length
  ceiling : q.inFlight ≤ limit

/-- The empty queue is consistent. -/
theorem wellFormed_empty (limit : Nat) : ({} : Queue).WellFormed limit :=
  { keys := List.nodup_nil
    order := List.Pairwise.nil
    fresh := by simp
    slots := rfl
    ceiling := Nat.zero_le _ }

variable {q q' : Queue} {limit : Nat} {e f : Element} {r : Request} {defaultRetries : UInt32}

/-- The executing elements are those in the queue that execute. -/
theorem mem_executing : e ∈ q.executing ↔ e ∈ q.elements ∧ e.executing = true :=
  List.mem_filter

/-- A queue contains an identifier if one of its elements has it. -/
theorem contains_iff {i : Run.Identifier} :
    q.contains i = true ↔ i ∈ q.elements.map (·.identifier) := by
  simp [contains, List.any_eq_true, List.mem_map]

/-! ## Accepting a request -/

/-- A request with an identifier in the queue is a duplicate and changes nothing. -/
theorem submit_of_contains (h : q.contains r.identifier = true) :
    q.submit defaultRetries r = (.duplicate .queued, q) := by
  simp [submit, h]

/-- Any other request is accepted, and its element comes last. -/
theorem submit_of_not_contains (h : ¬ q.contains r.identifier = true) :
    q.submit defaultRetries r =
      (.accepted, { q with elements := q.elements ++ [q.elementOf defaultRetries r],
                           nextSerial := q.nextSerial + 1 }) := by
  simp [submit, h]

/-- A request is refused without a change, or its element becomes the last one. -/
theorem submit_cases (q : Queue) (defaultRetries : UInt32) (r : Request) :
    q.submit defaultRetries r = (.duplicate .queued, q) ∨
      (r.identifier ∉ q.elements.map (·.identifier) ∧
        q.submit defaultRetries r =
          (.accepted, { q with elements := q.elements ++ [q.elementOf defaultRetries r],
                               nextSerial := q.nextSerial + 1 })) := by
  by_cases h : q.contains r.identifier = true
  · exact Or.inl (submit_of_contains h)
  · exact Or.inr ⟨fun hmem => h (contains_iff.mpr hmem), submit_of_not_contains h⟩

/-- A submission keeps the queue consistent. -/
theorem WellFormed.submit (hq : q.WellFormed limit) :
    (q.submit defaultRetries r).2.WellFormed limit := by
  rcases submit_cases q defaultRetries r with heq | ⟨hnew, heq⟩
  · rw [heq]
    exact hq
  · rw [heq]
    constructor
    · rw [List.map_append, List.map_singleton, ← List.concat_eq_append, List.nodup_concat]
      exact ⟨hnew, hq.keys⟩
    · rw [List.pairwise_append]
      refine ⟨hq.order, List.pairwise_singleton _ _, fun a ha b hb => ?_⟩
      obtain rfl := List.mem_singleton.mp hb
      exact hq.fresh a ha
    · intro x hx
      rcases List.mem_append.mp hx with hx | hx
      · have := hq.fresh x hx
        exact Nat.lt_succ_of_lt this
      · obtain rfl := List.mem_singleton.mp hx
        exact Nat.lt_succ_self _
    · simpa [executing, elementOf] using hq.slots
    · exact hq.ceiling

/-- A request changes nothing about the executing elements. -/
theorem executing_submit (q : Queue) (defaultRetries : UInt32) (r : Request) :
    (q.submit defaultRetries r).2.executing = q.executing := by
  rcases submit_cases q defaultRetries r with heq | ⟨-, heq⟩ <;>
    simp [heq, executing, elementOf]

/-- The element of an accepted request waits behind all others. -/
theorem pending_of_accepted (h : (q.submit defaultRetries r).1 = .accepted) :
    (q.submit defaultRetries r).2.pending = q.pending ++ [q.elementOf defaultRetries r] ∧
      (q.submit defaultRetries r).2.nextSerial = q.nextSerial + 1 := by
  rcases submit_cases q defaultRetries r with heq | ⟨-, heq⟩
  · rw [heq] at h
    cases h
  · simp [heq, pending, elementOf]

/-! ## Handing out an element -/

/-- An element before all others in order stays the oldest. -/
theorem foldl_older (rest : List Element) (h : ∀ f ∈ rest, e.serial < f.serial) :
    rest.foldl older e = e := by
  induction rest with
  | nil => rfl
  | cons f rest ih =>
    have hlt : ¬ f.serial < e.serial := by
      have := h f List.mem_cons_self
      omega
    simp only [List.foldl_cons, older, if_neg hlt]
    exact ih fun g hg => h g (List.mem_cons_of_mem f hg)

/-- The elements stand in the order of acceptance, so the oldest waiting one is the first. -/
theorem WellFormed.oldestPending? (hq : q.WellFormed limit) :
    q.oldestPending? = q.pending.head? := by
  have hsorted : q.pending.Pairwise fun a b => a.serial < b.serial :=
    List.Pairwise.sublist List.filter_sublist hq.order
  unfold Queue.oldestPending?
  cases hp : q.pending with
  | nil => rfl
  | cons w rest =>
    rw [hp, List.pairwise_cons] at hsorted
    simp only [List.head?_cons, foldl_older rest hsorted.1]

/-- If nothing is handed out, the slots are taken or nothing waits. -/
theorem dispatch?_eq_none (h : q.dispatch? limit = none) :
    limit ≤ q.inFlight ∨ q.pending = [] := by
  unfold dispatch? at h
  split at h
  · exact Or.inl ‹_›
  · right
    have hnone : q.oldestPending? = none := Option.map_eq_none_iff.mp h
    unfold Queue.oldestPending? at hnone
    split at hnone
    · assumption
    · cases hnone

/-- How handing out an element changes the queue: all elements before the chosen one execute, and
the chosen one is marked where it stands. -/
theorem WellFormed.dispatch?_split (hq : q.WellFormed limit)
    (h : q.dispatch? limit = some (e, q')) :
    ∃ before w after, q.elements = before ++ w :: after ∧ w.executing = false ∧
      (∀ x ∈ before, x.executing = true) ∧ e = w.started ∧ q.inFlight < limit ∧
      q' = { q with elements := before ++ e :: after, inFlight := q.inFlight + 1 } := by
  unfold dispatch? at h
  split at h
  · cases h
  · rename_i hfree
    rw [hq.oldestPending?, Option.map_eq_some_iff] at h
    obtain ⟨w, hw, heq⟩ := h
    obtain ⟨rest, hpending⟩ := List.head?_eq_some_iff.mp hw
    obtain ⟨before, after, hsplit, hbefore, hwaits, -⟩ := List.filter_eq_cons_iff.mp hpending
    have hkeys := hq.keys
    rw [hsplit, List.map_append, List.map_cons, List.nodup_middle, List.nodup_cons,
      List.mem_append, not_or] at hkeys
    -- Identifiers occur once, so the others are not marked as executing.
    have hother (xs : List Element) (hxs : w.identifier ∉ xs.map (·.identifier)) :
        xs.map (markExecuting w.identifier) = xs := by
      refine (List.map_congr_left fun x hx => ?_).trans (List.map_id xs)
      have hne : x.identifier ≠ w.identifier := fun hid =>
        hxs (List.mem_map.mpr ⟨x, hx, hid⟩)
      simp [markExecuting, hne]
    obtain ⟨rfl, rfl⟩ := Prod.mk.inj heq
    refine ⟨before, w, after, hsplit, by simpa using hwaits,
      fun x hx => by simpa using hbefore x hx, rfl, by omega, ?_⟩
    rw [hsplit, List.map_append, List.map_cons, hother before hkeys.1.1, hother after hkeys.1.2]
    simp [markExecuting]

/-- The element that is handed out is the first waiting one, and it waits no longer. -/
theorem WellFormed.pending_dispatch (hq : q.WellFormed limit)
    (h : q.dispatch? limit = some (e, q')) : q.pending = e.waiting :: q'.pending := by
  obtain ⟨before, w, after, hsplit, hwaits, hbefore, rfl, -, rfl⟩ := hq.dispatch?_split h
  have hnone : before.filter (!·.executing) = [] :=
    List.filter_eq_nil_iff.mpr fun x hx => by simp [hbefore x hx]
  have hw : w.started.waiting = w := Element.waiting_of_not_executing hwaits
  rw [hw]
  simp [pending, hsplit, hnone, hwaits, Element.started]

/-- Handing out an element adds it to the executing ones. -/
theorem WellFormed.executing_dispatch (hq : q.WellFormed limit)
    (h : q.dispatch? limit = some (e, q')) : q'.executing.Perm (e :: q.executing) := by
  obtain ⟨before, w, after, hsplit, hwaits, -, rfl, -, rfl⟩ := hq.dispatch?_split h
  simp [executing, hsplit, hwaits, Element.started]

/-- Handing out an element takes no serial number. -/
theorem WellFormed.nextSerial_dispatch (hq : q.WellFormed limit)
    (h : q.dispatch? limit = some (e, q')) : q'.nextSerial = q.nextSerial := by
  obtain ⟨-, -, -, -, -, -, -, -, rfl⟩ := hq.dispatch?_split h
  rfl

/-- An element that is handed out executes. -/
theorem WellFormed.executing_of_dispatch (hq : q.WellFormed limit)
    (h : q.dispatch? limit = some (e, q')) : e.executing = true := by
  obtain ⟨-, w, -, -, -, -, rfl, -, -⟩ := hq.dispatch?_split h
  rfl

/-- Handing out an element keeps the queue consistent. -/
theorem WellFormed.dispatch (hq : q.WellFormed limit) (h : q.dispatch? limit = some (e, q')) :
    q'.WellFormed limit := by
  have hslots := (hq.executing_dispatch h).length_eq
  obtain ⟨before, w, after, hsplit, -, -, rfl, hfree, rfl⟩ := hq.dispatch?_split h
  have hkeys := hq.keys
  have horder := hq.order
  have hfresh := hq.fresh
  rw [hsplit] at hkeys horder hfresh
  constructor
  · simpa [Element.started] using hkeys
  · simpa [List.pairwise_append, List.pairwise_cons, Element.started] using horder
  · intro x hx
    rcases List.mem_append.mp hx with hx | hx
    · exact hfresh x (List.mem_append_left _ hx)
    · rcases List.mem_cons.mp hx with rfl | hx
      · exact hfresh w (by simp)
      · exact hfresh x (by simp [hx])
  · rw [hslots, List.length_cons, ← hq.slots]
  · exact hfree

/-! ## Removing an element -/

/-- How removing an element changes the queue: the others stay as they are. -/
theorem WellFormed.release_split (hq : q.WellFormed limit) (he : e ∈ q.elements) :
    ∃ before after, q.elements = before ++ e :: after ∧
      q.release e.identifier =
        { q with elements := before ++ after, inFlight := q.inFlight - 1 } := by
  obtain ⟨before, after, hsplit⟩ := List.append_of_mem he
  have hkeys := hq.keys
  rw [hsplit, List.map_append, List.map_cons, List.nodup_middle, List.nodup_cons,
    List.mem_append, not_or] at hkeys
  have hother (xs : List Element) (hxs : e.identifier ∉ xs.map (·.identifier)) :
      xs.filter (·.identifier ≠ e.identifier) = xs :=
    List.filter_eq_self.mpr fun x hx => by
      simpa using fun hid => hxs (List.mem_map.mpr ⟨x, hx, hid⟩)
  refine ⟨before, after, hsplit, ?_⟩
  unfold release
  rw [hsplit, List.filter_append, List.filter_cons, hother before hkeys.1.1,
    hother after hkeys.1.2]
  simp

/-- Removing an executing element takes it from the executing ones. -/
theorem WellFormed.executing_release (hq : q.WellFormed limit) (he : e ∈ q.elements)
    (hexec : e.executing = true) : q.executing.Perm (e :: (q.release e.identifier).executing) := by
  obtain ⟨before, after, hsplit, heq⟩ := hq.release_split he
  simp [executing, heq, hsplit, hexec]

/-- Removing an executing element leaves the waiting ones. -/
theorem WellFormed.pending_release (hq : q.WellFormed limit) (he : e ∈ q.elements)
    (hexec : e.executing = true) : (q.release e.identifier).pending = q.pending := by
  obtain ⟨before, after, hsplit, heq⟩ := hq.release_split he
  simp [pending, heq, hsplit, hexec]

/-- The removal of an executing element keeps the queue consistent. -/
theorem WellFormed.release (hq : q.WellFormed limit) (he : e ∈ q.elements)
    (hexec : e.executing = true) : (q.release e.identifier).WellFormed limit := by
  have hslots := (hq.executing_release he hexec).length_eq
  obtain ⟨before, after, hsplit, heq⟩ := hq.release_split he
  have hsub : (q.release e.identifier).elements.Sublist q.elements := by
    rw [heq, hsplit]
    exact (List.Sublist.refl before).append (List.sublist_cons_self e after)
  constructor
  · exact hq.keys.sublist (hsub.map _)
  · exact hq.order.sublist hsub
  · exact fun x hx => hq.fresh x (hsub.subset hx)
  · have hcount : (q.release e.identifier).inFlight = q.inFlight - 1 := by rw [heq]
    rw [hcount, hq.slots, hslots, List.length_cons, Nat.add_sub_cancel]
  · exact Nat.le_trans (Nat.sub_le _ _) hq.ceiling

end Queue

end BenchQueue.Scheduling
