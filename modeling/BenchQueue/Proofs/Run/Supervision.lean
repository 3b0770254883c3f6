import BenchQueue.Proofs.Flow
import BenchQueue.Run.Lifecycle

/-!
# Supervised calls in time

A call on a provider takes any time and ends in any way, or never. A supervised call is given up at
a limit. In surroundings with a clock, a store that accepts changes of status and such a provider,
time only passes, and a history keeps the changes of status and the calls.
-/

namespace BenchQueue.Run

open BenchQueue.Flow (noted achieves_noted)
open BenchQueue.Infra (Ended)

/-! ## Providers in time -/

/-- What a call on a provider comes to: it ends after some time, or never. -/
inductive Course (α : Type)
  | returns (time : Duration) (answer : α)
  | panics (time : Duration)
  | never

variable {α : Type}

/-- When a call ends that begins at an instant, and how. An end after the last instant never
comes. -/
def Course.end? (c : Course α) (start : Instant) : Option (Instant × Ended α) :=
  match c with
  | .returns time answer => (start.after? time).map (·, .returned answer)
  | .panics time => (start.after? time).map (·, .panicked)
  | .never => none

/-- A call that begins at an instant ends in some way at another one, before a moment. -/
def Course.EndsBefore (c : Course α) (start : Instant) (moment : Nat) (ended : Ended α)
    (t : Instant) : Prop :=
  c.end? start = some (t, ended) ∧ t.nanos < moment

/-- A call that begins at an instant has not ended by a moment. -/
def Course.OpenAt (c : Course α) (start : Instant) (moment : Nat) : Prop :=
  ∀ t ended, c.end? start = some (t, ended) → moment < t.nanos

/-- A call ends, or it is given up at a limit that comes before. If both happen at the same instant,
either may come first. -/
inductive Supervised (c : Course α) (limit : Option Instant) (start : Instant) :
    Ended α → Instant → Prop
  | ended {ended : Ended α} {t : Instant} (hend : c.end? start = some (t, ended))
      (hlimit : ∀ l ∈ limit, t.nanos ≤ l.nanos) : Supervised c limit start ended t
  | expired {t : Instant} (hlate : ∀ u ended, c.end? start = some (u, ended) →
      ∃ l ∈ limit, l.nanos ≤ u.nanos) (hstart : start.nanos ≤ t.nanos) :
      Supervised c limit start .expired t

/-- How a provider behaves when it is called. -/
abbrev Behaviour := (call : Infra.Call) → Course call.Answer

/-- Requests that are answered at once or after some time, in any way. -/
def IsPlain : Effect → Prop
  | .instant | .store (.updateStatus _ _ _) | .supervised _ _ _ => False
  | _ => True

/-- Surroundings in which time passes, with a store that accepts changes of status. -/
inductive Timed (b : Behaviour) : (effect : Effect) → Instant → effect.Answer → Instant → Prop
  | instant (now : Instant) : Timed b .instant now now now
  | write {now later : Instant} (hle : now.nanos ≤ later.nanos) (id : Uuid) (status : Status)
      (at_ : Timestamp) : Timed b (.store (.updateStatus id status at_)) now (.ok ()) later
  | supervised {now later : Instant} {handle : Nat} {call : Infra.Call} {limit : Option Instant}
      {ended : Ended call.Answer} (h : Supervised (b call) limit now ended later) :
      Timed b (.supervised handle call limit) now ended later
  | plain {now later : Instant} {effect : Effect} (heffect : IsPlain effect)
      (hle : now.nanos ≤ later.nanos) (answer : effect.Answer) : Timed b effect now answer later

/-! ## What came first -/

variable {c : Course α} {limit : Option Instant} {start t u : Instant} {ended ended' : Ended α}
  {deadline : Duration}

/-- A call does not end before it began, nor after the last instant of the clock. -/
theorem Course.end?_le (h : c.end? start = some (t, ended)) :
    start.nanos ≤ t.nanos ∧ t.nanos < UInt64.size / 2 * nanosPerSecond := by
  cases c with
  | never => cases h
  | returns time answer =>
    obtain ⟨u, hafter, heq⟩ := Option.map_eq_some_iff.mp h
    obtain ⟨rfl, -⟩ := Prod.mk.inj heq
    have hu := Instant.nanos_of_after? hafter
    omega
  | panics time =>
    obtain ⟨u, hafter, heq⟩ := Option.map_eq_some_iff.mp h
    obtain ⟨rfl, -⟩ := Prod.mk.inj heq
    have hu := Instant.nanos_of_after? hafter
    omega

/-- A supervised call always comes to something. -/
theorem exists_supervised (c : Course α) (limit : Option Instant) (start : Instant) :
    ∃ ended t, Supervised c limit start ended t := by
  cases hend : c.end? start with
  | none =>
    refine ⟨.expired, start, .expired (fun u ended h => ?_) (Nat.le_refl _)⟩
    rw [hend] at h
    cases h
  | some e =>
    obtain ⟨t, ended⟩ := e
    by_cases hlimit : ∀ l ∈ limit, t.nanos ≤ l.nanos
    · exact ⟨ended, t, .ended hend hlimit⟩
    · refine ⟨.expired, start, .expired (fun u ended h => ?_) (Nat.le_refl _)⟩
      obtain ⟨rfl, -⟩ := Prod.mk.inj (Option.some.inj (hend.symm.trans h))
      simp only [Classical.not_forall, Nat.not_le] at hlimit
      obtain ⟨l, hl, hlt⟩ := hlimit
      exact ⟨l, hl, Nat.le_of_lt hlt⟩

/-- A supervised call does not end before it began, whether it ends or is given up. -/
theorem Supervised.le (h : Supervised c limit start ended t) : start.nanos ≤ t.nanos := by
  cases h with
  | ended hend _ => exact (Course.end?_le hend).1
  | expired _ hstart => exact hstart

/-- A call that ends before the deadline is not given up. -/
theorem Supervised.of_endsBefore {begun : Instant}
    (h : Supervised c (begun.after? deadline) start ended t)
    (hc : c.EndsBefore start (begun.nanos + deadline.nanos) ended' u) :
    ended = ended' ∧ t = u := by
  obtain ⟨hend, hlt⟩ := hc
  cases h with
  | ended hend' _ =>
    obtain ⟨rfl, rfl⟩ := Prod.mk.inj (Option.some.inj (hend'.symm.trans hend))
    exact ⟨rfl, rfl⟩
  | expired hlate _ =>
    obtain ⟨l, hl, hle⟩ := hlate u ended' hend
    have hmoment := (Instant.nanos_of_after? hl).1
    omega

/-- A call that has not ended by the deadline is given up. -/
theorem Supervised.of_openAt {begun : Instant}
    (h : Supervised c (begun.after? deadline) start ended t)
    (hc : c.OpenAt start (begun.nanos + deadline.nanos)) : ended = .expired := by
  cases h with
  | expired _ _ => rfl
  | ended hend hlimit =>
    have hlt := hc t ended hend
    cases hafter : begun.after? deadline with
    | some l =>
      have hle := hlimit l hafter
      have hmoment := (Instant.nanos_of_after? hafter).1
      omega
    | none =>
      -- The deadline lies after the last instant, so the call would too.
      have hmoment := Instant.le_of_after?_eq_none hafter
      have hlast := (Course.end?_le hend).2
      omega

/-! ## What an execution asks -/

/-- A call on a provider with what it came to. -/
abbrev Called := (call : Infra.Call) × Ended call.Answer

/-- The change of the status of a record. -/
def written? : Flow.Exchange Effects → Option (Uuid × Status)
  | ⟨.store (.updateStatus id status _), _⟩ => some (id, status)
  | _ => none

/-- A call on a provider, supervised or not. -/
def called? : Flow.Exchange Effects → Option Called
  | ⟨.supervised _ call _, ended⟩ => some ⟨call, ended⟩
  | ⟨.provider _ call, answer⟩ => some ⟨call, .returned answer⟩
  | _ => none

/-- The changes of status. -/
def writes (history : List (Flow.Exchange Effects)) : List (Uuid × Status) :=
  history.filterMap written?

/-- The calls on providers. -/
def calls (history : List (Flow.Exchange Effects)) : List Called := history.filterMap called?

/-- Time has passed, and some changes of status and some calls were made. -/
structure Passed (before : Instant × List (Flow.Exchange Effects)) (ws : List (Uuid × Status))
    (cs : List Called) (after : Instant × List (Flow.Exchange Effects)) : Prop where
  le : before.1.nanos ≤ after.1.nanos
  kept : before.2 <+: after.2
  writes : writes after.2 = writes before.2 ++ ws
  calls : calls after.2 = calls before.2 ++ cs

section Passed

variable {before between after : Instant × List (Flow.Exchange Effects)}
  {ws ws' : List (Uuid × Status)} {cs cs' : List Called}

/-- Nothing asked, nothing passed. -/
theorem passed_refl (before : Instant × List (Flow.Exchange Effects)) :
    Passed before [] [] before :=
  ⟨Nat.le_refl _, List.prefix_refl _, (List.append_nil _).symm, (List.append_nil _).symm⟩

/-- What passed in one stretch and in the next one passed in both together. -/
theorem Passed.trans (h : Passed before ws cs between) (h' : Passed between ws' cs' after) :
    Passed before (ws ++ ws') (cs ++ cs') after :=
  ⟨Nat.le_trans h.le h'.le, h.kept.trans h'.kept,
    by rw [h'.writes, h.writes, List.append_assoc], by rw [h'.calls, h.calls, List.append_assoc]⟩

/-- One request more. -/
theorem passed_concat {now later : Instant} (hle : now.nanos ≤ later.nanos)
    (history : List (Flow.Exchange Effects)) (x : Flow.Exchange Effects) :
    Passed (now, history) (written? x).toList (called? x).toList (later, history ++ [x]) :=
  ⟨hle, List.prefix_append _ _, Flow.filterMap_concat _ _ _, Flow.filterMap_concat _ _ _⟩

end Passed

variable {b : Behaviour} {now : Instant} {history : List (Flow.Exchange Effects)}
  {Q : α → Instant × List (Flow.Exchange Effects) → Prop}

/-- A plain request lets time pass. -/
theorem achieves_plain {effect : Effect} {next : effect.Answer → Task α}
    (heffect : IsPlain effect) (some : effect.Answer)
    (h : ∀ answer later, Passed (now, history) (written? ⟨effect, answer⟩).toList
        (called? ⟨effect, answer⟩).toList (later, history ++ [⟨effect, answer⟩]) →
      (next answer).Achieves (noted (Timed b)) (later, history ++ [⟨effect, answer⟩]) Q) :
    (Flow.ask effect next : Task α).Achieves (noted (Timed b)) (now, history) Q := by
  refine achieves_noted ⟨some, now, .plain heffect (Nat.le_refl _) some⟩
    fun answer later hanswer => ?_
  cases hanswer with
  | instant _ => exact heffect.elim
  | write _ _ _ _ => exact heffect.elim
  | supervised _ => exact heffect.elim
  | plain _ hle _ => exact h answer later (passed_concat hle history _)

/-- A call on the provider ends or is given up. -/
theorem achieves_supervised {handle : Nat} {call : Infra.Call} {limit : Option Instant}
    {next : Ended call.Answer → Task α}
    (h : ∀ ended later, Supervised (b call) limit now ended later →
      Passed (now, history) [] [⟨call, ended⟩]
        (later, history ++ [⟨.supervised handle call limit, ended⟩]) →
      (next ended).Achieves (noted (Timed b))
        (later, history ++ [⟨.supervised handle call limit, ended⟩]) Q) :
    (Flow.ask (.supervised handle call limit) next : Task α).Achieves (noted (Timed b))
      (now, history) Q := by
  obtain ⟨ended, later, hsome⟩ := exists_supervised (b call) limit now
  refine achieves_noted ⟨ended, later, .supervised hsome⟩ fun ended later hended => ?_
  cases hended with
  | plain hplain _ _ => exact hplain.elim
  | supervised hended =>
    exact h ended later hended
      (passed_concat hended.le history ⟨.supervised handle call limit, ended⟩)

end BenchQueue.Run
