import BenchQueue.Proofs.Comparison.Rounds
import BenchQueue.Proofs.Worker.Listeners

/-!
# A comparison with a clock

Time passes only while a comparison waits: a wait ends at its instant or earlier with news, and the
store, the measurements and the messages answer at once and without a failure. So all lookups of a round
happen at one instant, which is at most the time between two rounds after the round before it. A target
that is not found then was looked for in vain in this round.
-/

namespace BenchQueue

namespace Instant

/-- Time goes on from an instant to one that is the same or exists after it. -/
def Passes (t t' : Instant) : Prop := t' = t ∨ ∃ d, t.after? d = some t'

variable {t t' : Instant} {d : Duration}

/-- Time does not go back. -/
theorem Passes.le (h : t.Passes t') : t.nanos ≤ t'.nanos := by
  rcases h with rfl | ⟨d, hd⟩
  · exact le_rfl
  · exact (nanos_of_after? hd).1 ▸ Nat.le_add_right _ _

/-- What ends no later than a duration from now does so also if the end of the duration does not exist. -/
theorem Passes.le_add (h : t.Passes t') (hlimit : ∀ limit, t.after? d = some limit →
    t'.nanos ≤ limit.nanos) : t'.nanos ≤ t.nanos + d.nanos := by
  cases hd : t.after? d with
  | some limit => exact (nanos_of_after? hd).1 ▸ hlimit limit hd
  | none =>
    rcases h with rfl | ⟨d', hd'⟩
    · exact Nat.le_add_right _ _
    · exact (nanos_of_after? hd').2.le.trans (le_of_after?_eq_none hd)

end Instant

/-- The number of changes of a signal does not decrease. -/
theorem Signal.SendsFalse.changes_le {s s' : Signal} (h : s.SendsFalse s') :
    s.changes ≤ s'.changes := by
  induction h with
  | refl => exact le_rfl
  | tail _ hsent ih =>
    subst hsent
    exact Nat.le_succ_of_le ih

namespace Comparison

open BenchQueue.Flow (noted)

/-- The answers to a comparison, with the instants before and after them. -/
inductive OnTime : (effect : Effect) → Instant → effect.Answer → Instant → Prop
  | instant (t : Instant) : OnTime .instant t t t
  | signal (t : Instant) (signal : Signal) : OnTime .signal t signal t
  | elapsed {limit t : Instant} (seen : Option Nat) (h : t.nanos ≤ limit.nanos) :
      OnTime (.wait (some limit) seen) t .elapsed limit
  | news {limit : Option Instant} {t t' : Instant} (seen : Option Nat) (news : Signal.News)
      (hpasses : t.Passes t') (hlimit : ∀ l, limit = some l → t'.nanos ≤ l.nanos) :
      OnTime (.wait limit seen) t (.news news) t'
  | findFinished (filter : Run.Filter) (found : Option Run.Record) (t : Instant) :
      OnTime (.store (.findFinished filter)) t (.ok found) t
  | measure (kind : Run.Kind) (current target : Run.Identifier) (summary : String) (t : Instant) :
      OnTime (.measure kind current target) t (.ok summary) t
  | notify (text : String) (t : Instant) : OnTime (.notify text) t (.ok ()) t

/-- A lookup takes no time and does not fail. -/
theorem OnTime.of_findFinished {filter : Run.Filter} {answer : Except Store.Error (Option Run.Record)}
    {t t' : Instant} (h : OnTime (.store (.findFinished filter)) t answer t') :
    (∃ found, answer = .ok found) ∧ t' = t := by
  cases h
  exact ⟨⟨_, rfl⟩, rfl⟩

/-- A measurement takes no time and does not fail. -/
theorem OnTime.of_measure {kind : Run.Kind} {current target : Run.Identifier}
    {answer : Except Measurement.Error String} {t t' : Instant}
    (h : OnTime (.measure kind current target) t answer t') :
    (∃ summary, answer = .ok summary) ∧ t' = t := by
  cases h
  exact ⟨⟨_, rfl⟩, rfl⟩

/-- Surroundings with a signal that stays false and a clock. -/
def Prompt : Flow.Surroundings Effects (Signal × Instant) := fun effect s answer s' =>
  WhileFalse effect s.1 answer s'.1 ∧ OnTime effect s.2 answer s'.2

/-- The signal, the clock and the history. -/
abbrev Moment := (Signal × Instant) × List Exchange

variable {α : Type} {j : Job} {p p' p'' : Progress} {target : Run.Identifier}
  {targets rest : List Run.Identifier} {s : Signal × Instant} {u v w : Moment}
  {history asked more : List Exchange} {Q : α → Moment → Prop}

/-! ## Requests that are answered at once -/

/-- A request that is not about the signal is answered on time, whatever is sent meanwhile. -/
theorem achieves_onTime {effect : Effect} {next : effect.Answer → Task α} {default : effect.Answer}
    (hsignal : effect ≠ .signal) (hwait : ∀ limit seen, effect ≠ .wait limit seen)
    (hdefault : OnTime effect s.2 default s.2)
    (h : ∀ answer signal now, OnTime effect s.2 answer now → s.1.SendsFalse signal →
      (next answer).Achieves (noted Prompt) ((signal, now), history ++ [⟨effect, answer⟩]) Q) :
    (Flow.ask effect next : Task α).Achieves (noted Prompt) (s, history) Q := by
  refine Flow.achieves_noted ⟨default, s, .other .refl hsignal hwait default, hdefault⟩ ?_
  rintro answer ⟨signal, now⟩ ⟨hanswer, htime⟩
  exact h answer signal now htime hanswer.sendsFalse

/-- The clock is read without time passing, while the signal may have changed. -/
theorem achieves_instant {next : Instant → Task α}
    (h : ∀ signal, s.1.SendsFalse signal → (next s.2).Achieves (noted Prompt)
      ((signal, s.2), history ++ [⟨.instant, s.2⟩]) Q) :
    (Flow.ask .instant next : Task α).Achieves (noted Prompt) (s, history) Q := by
  refine achieves_onTime (by simp) (by simp) (.instant _) ?_
  rintro answer signal now ⟨⟩ hsends
  exact h signal hsends

/-- The signal that is read is the current one. -/
theorem achieves_signal {next : Signal → Task α}
    (h : ∀ signal, s.1.SendsFalse signal → (next signal).Achieves (noted Prompt)
      ((signal, s.2), history ++ [⟨.signal, signal⟩]) Q) :
    (Flow.ask .signal next : Task α).Achieves (noted Prompt) (s, history) Q := by
  refine Flow.achieves_noted ⟨s.1, s, .signal .refl, .signal _ _⟩ ?_
  rintro answer ⟨signal, now⟩ ⟨hsignal, htime⟩
  cases hsignal with
  | other _ hne _ _ => exact absurd rfl hne
  | signal hsends =>
    cases htime with
    | signal _ _ => exact h signal hsends

/-! ## What is found -/

/-- The filter of a lookup that found a run. -/
def success? : Exchange → Option Run.Filter
  | ⟨.store (.findFinished filter), .ok (some _)⟩ => some filter
  | _ => none

/-- The lookups that found a run are those for the targets that were measured, in their order. -/
def Attributed (history : List Exchange) : Prop :=
  history.filterMap success? = (measured history).map Run.Filter.forIdentifier

/-- A lookup of a target that found nothing. -/
def inVain (target : Run.Identifier) : Exchange :=
  ⟨.store (.findFinished (.forIdentifier target)), Except.ok none⟩

/-- Two parts of a history are attributed together if each of them is. -/
theorem Attributed.append (hasked : Attributed asked) (hmore : Attributed more) :
    Attributed (asked ++ more) := by
  unfold Attributed measured at *
  rw [List.filterMap_append, List.filterMap_append, List.map_append, hasked, hmore]

/-- Lookups at one instant, the targets that they were to find and what they have led to. -/
structure LooksFor (sought : List Run.Identifier) (p : Progress) (u : Moment) (p' : Progress)
    (v : Moment) : Prop where
  asked : ∃ asked, v.2 = u.2 ++ asked ∧ Attributed asked ∧
    ∀ t ∈ sought, t ∉ p'.matched → inVain t ∈ asked
  matched : p.matched ⊆ p'.matched
  targets : p'.targets = p.targets
  deadline : p'.deadline = p.deadline
  isListening : p'.isListening = p.isListening
  seen : p'.seen = p.seen
  signal : u.1.1.SendsFalse v.1.1
  clock : v.1.2 = u.1.2

/-- To look for nothing asks nothing and changes nothing. -/
theorem looksFor_nothing (p : Progress) (u : Moment) : LooksFor [] p u p u :=
  ⟨⟨[], (List.append_nil _).symm, rfl, by simp⟩, fun _ h => h, rfl, rfl, rfl, rfl, .refl, rfl⟩

/-- A target that was found before is not looked for again. -/
theorem LooksFor.skip (h : LooksFor rest p u p' v) (hmatched : target ∈ p.matched) :
    LooksFor (target :: rest) p u p' v := by
  obtain ⟨asked, hhistory, hattributed, hvain⟩ := h.asked
  refine { h with asked := ⟨asked, hhistory, hattributed, ?_⟩ }
  exact List.forall_mem_cons.mpr ⟨fun hnot => absurd (h.matched hmatched) hnot, hvain⟩

/-- Lookups of one target and then of the others are lookups of all of them. -/
theorem LooksFor.trans (hfirst : LooksFor [target] p u p' v) (hrest : LooksFor rest p' v p'' w) :
    LooksFor (target :: rest) p u p'' w := by
  obtain ⟨asked, hasked, hattributed, hvain⟩ := hfirst.asked
  obtain ⟨more, hmore, hattributed', hvain'⟩ := hrest.asked
  exact {
    asked := by
      refine ⟨asked ++ more, by rw [hmore, hasked, List.append_assoc],
        hattributed.append hattributed', List.forall_mem_cons.mpr ⟨fun hnot => ?_, fun t ht hnot => ?_⟩⟩
      · have hnot' : target ∉ p'.matched := fun hmatched => hnot (hrest.matched hmatched)
        exact List.mem_append_left _ (hvain target List.mem_cons_self hnot')
      · exact List.mem_append_right _ (hvain' t ht hnot)
    matched := List.Subset.trans hfirst.matched hrest.matched
    targets := hrest.targets.trans hfirst.targets
    deadline := hrest.deadline.trans hfirst.deadline
    isListening := hrest.isListening.trans hfirst.isListening
    seen := hrest.seen.trans hfirst.seen
    signal := hfirst.signal.trans hrest.signal
    clock := hrest.clock.trans hfirst.clock }

/-- A message finds no target. -/
theorem report_onTime (j : Job) (target : Run.Identifier) (summary : String) (u : Moment) :
    (Progress.report j target summary).Achieves (noted Prompt) u fun result v =>
      ∃ sent asked, result = .ok sent ∧ v.2 = u.2 ++ asked ∧ Attributed asked ∧
        u.1.1.SendsFalse v.1.1 ∧ v.1.2 = u.1.2 := by
  obtain ⟨s, history⟩ := u
  unfold Progress.report
  split
  case isTrue =>
    refine achieves_onTime (by simp) (by simp) (.notify _ _) ?_
    rintro answer signal now ⟨⟩ hsends
    exact ⟨1, _, rfl, rfl, rfl, hsends, rfl⟩
  case isFalse => exact ⟨0, [], rfl, (List.append_nil _).symm, rfl, .refl, rfl⟩

/-- A lookup that finds a run is followed by the measurement of its target. -/
theorem lookUp_onTime (j : Job) (p : Progress) (target : Run.Identifier) (u : Moment) :
    (p.lookUp j target).Achieves (noted Prompt) u fun result v =>
      ∃ p', result = .ok p' ∧ LooksFor [target] p u p' v := by
  obtain ⟨s, history⟩ := u
  refine achieves_onTime (by simp) (by simp) (.findFinished _ none _) ?_
  intro answer signal now htime hfirst
  obtain ⟨⟨run?, rfl⟩, rfl⟩ := htime.of_findFinished
  cases run? with
  | none =>
    refine ⟨p, rfl, ⟨_, rfl, rfl, fun t ht _ => ?_⟩, fun _ h => h, rfl, rfl, rfl, rfl, hfirst, rfl⟩
    rw [List.mem_singleton.mp ht]
    exact List.mem_singleton_self _
  | some record =>
    refine achieves_onTime (by simp) (by simp) (.measure _ _ _ "" _) ?_
    intro answer signal' now htime hsecond
    obtain ⟨⟨summary, rfl⟩, rfl⟩ := htime.of_measure
    refine (report_onTime j target summary _).bind ?_
    rintro result v ⟨sent, asked, rfl, hasked, hattributed, hthird, hclock⟩
    have hpair : Attributed [found target record, measurement j target (.ok summary)] := rfl
    refine ⟨_, rfl, ⟨_, ?_, hpair.append hattributed, fun t ht hnot => ?_⟩,
      List.subset_append_left _ _, rfl, rfl, rfl, rfl, (hfirst.trans hsecond).trans hthird, hclock⟩
    · rw [hasked, List.append_assoc, List.append_assoc]
      rfl
    · rw [List.mem_singleton.mp ht] at hnot
      exact absurd (List.mem_append_right _ (List.mem_singleton_self _)) hnot

/-- The lookups of a round end, without a failure and at the instant at which they began. -/
theorem lookUpAll_onTime (j : Job) (p : Progress) (sought : List Run.Identifier) (u : Moment) :
    (p.lookUpAll j sought).Achieves (noted Prompt) u fun result v =>
      ∃ p', result = .ok p' ∧ LooksFor sought p u p' v := by
  induction sought generalizing p u with
  | nil => exact ⟨p, rfl, looksFor_nothing p u⟩
  | cons target rest ih =>
    unfold Progress.lookUpAll
    split
    case isTrue hmatched =>
      refine (ih p u).mono ?_
      rintro result v ⟨p', rfl, hrest⟩
      exact ⟨p', rfl, hrest.skip hmatched⟩
    case isFalse =>
      refine (lookUp_onTime j p target u).bind ?_
      rintro result v ⟨p', rfl, hfirst⟩
      refine (ih p' v).mono ?_
      rintro result w ⟨p'', rfl, hrest⟩
      exact ⟨p'', rfl, hfirst.trans hrest⟩

/-! ## One round -/

/-- What ended a wait: the time between two rounds was over, or there was news that had not been
seen. -/
inductive WokenBy (interval : Duration) (p : Progress) (u : Moment) (seen : Nat) (v : Moment) : Prop
  | time (hseen : seen = p.seen) (hclock : v.1.2.nanos = u.1.2.nanos + interval.nanos)
  | news (hnew : seen ≠ p.seen) (hlow : u.1.1.changes ≤ seen) (hhigh : seen ≤ v.1.1.changes)

/-- Values that are sent before and after a wait do not matter to what ended it. -/
theorem WokenBy.widen {interval : Duration} {seen : Nat} {u' v' : Moment}
    (h : WokenBy interval p u seen v) (hbefore : u'.1.1.SendsFalse u.1.1) (hstart : u'.1.2 = u.1.2)
    (hafter : v.1.1.SendsFalse v'.1.1) (hend : v'.1.2 = v.1.2) : WokenBy interval p u' seen v' := by
  cases h with
  | time hseen hclock => exact .time hseen (by rw [hstart, hend, hclock])
  | news hnew hlow hhigh =>
    exact .news hnew (hbefore.changes_le.trans hlow) (hhigh.trans hafter.changes_le)

/-- A wait, and what is seen of the signal after it. -/
structure Waits (interval : Duration) (p : Progress) (u : Moment) (seen : Nat) (v : Moment) :
    Prop where
  asked : ∃ asked, v.2 = u.2 ++ asked ∧ Attributed asked
  signal : u.1.1.SendsFalse v.1.1
  le_clock : u.1.2.nanos ≤ v.1.2.nanos
  clock_le : v.1.2.nanos ≤ u.1.2.nanos + interval.nanos
  woken : WokenBy interval p u seen v

/-- A wait of somebody who listens ends: news may come at once. -/
theorem exists_wait (duration : Duration) (seen : Nat) (s : Signal × Instant) :
    ∃ wake s', Prompt (.wait (s.2.after? duration) (some seen)) s wake s' := by
  obtain ⟨signal, hsends, hnews⟩ := s.1.exists_sendsFalse_news seen
  refine ⟨_, (signal, s.2), .news hsends hnews, .news _ _ (Or.inl rfl) fun limit hlimit => ?_⟩
  rw [(Instant.nanos_of_after? hlimit).1]
  exact Nat.le_add_right _ _

/-- News while the signal is quiet is a change that was not seen. -/
theorem changed_of_news {signal : Signal} {seen : Nat} (hquiet : signal.Quiet)
    (hnews : signal.news seen ≠ .nothing) :
    signal.news seen = .changed signal.changes ∧ signal.changes ≠ seen := by
  by_cases hseen : seen = signal.changes
  · refine absurd ?_ hnews
    simp [Signal.news, hseen, hquiet.isOpen]
  · exact ⟨by simp [Signal.news, hseen], fun heq => hseen heq.symm⟩

/-- While the signal stays false, a wait ends in another round of lookups. -/
theorem wake_onTime (c : Config) (hlistening : p.isListening = true) (hquiet : u.1.1.Quiet) :
    (p.wake c).Achieves (noted Prompt) u fun woken v =>
      ∃ seen, woken = .lookUp { p with seen } ∧ Waits c.pollInterval p u seen v := by
  obtain ⟨⟨start, now⟩, history⟩ := u
  obtain ⟨targets, matched, outcome, deadline, isListening, seen⟩ := p
  obtain rfl : isListening = true := hlistening
  refine achieves_instant fun signal hfirst => ?_
  refine Flow.achieves_noted (exists_wait c.pollInterval seen (signal, now)) ?_
  rintro wake ⟨signal', now'⟩ ⟨hsignal, htime⟩
  have hsends : start.SendsFalse signal' := hfirst.trans hsignal.sendsFalse
  have hquiet' := hquiet.sendsFalse hsends
  generalize hlimit : now.after? c.pollInterval = limit at hsignal htime
  cases htime with
  | elapsed _ hle =>
    have hclock := (Instant.nanos_of_after? hlimit).1
    exact ⟨seen, rfl, ⟨_, List.append_assoc _ _ _, rfl⟩, hsends, hle, hclock.le, .time rfl hclock⟩
  | news _ news hpasses hbefore =>
    cases hsignal with
    | other _ _ hne _ => exact absurd rfl (hne _ _)
    | news _ hnews =>
      obtain ⟨hchanged, hunseen⟩ := changed_of_news hquiet' hnews
      rw [hchanged]
      refine achieves_signal fun signal'' hthird => ?_
      have hvalue := (hquiet'.sendsFalse hthird).value
      have hhistory (x y z : Exchange) : history ++ [x] ++ [y] ++ [z] = history ++ [x, y, z] := by
        simp
      refine ⟨signal'.changes, ?_, ⟨_, hhistory _ _ _, rfl⟩, hsends.trans hthird, hpasses.le,
        hpasses.le_add fun l hl => hbefore l (hlimit ▸ hl),
        .news hunseen hsends.changes_le hthird.changes_le⟩
      rw [hvalue]
      rfl

/-- The end of a round at an instant: the comparison goes on, unless its time is over and there are
targets that were not found. -/
def endAt (p : Progress) (now : Instant) : Progress.Next :=
  match p.deadline with
  | none => .again p
  | some (deadline, budget) =>
    if !p.isComplete && deadline.reached now then
      .finished (.error (.timeout p.unmatched budget))
    else .again p

/-- A round gives the comparison up exactly if there is an end of its time, this has come, and
targets are missing, and the failure says how many. -/
theorem endAt_eq_timeout_iff {now : Instant} {n : Nat} {budget : Duration} :
    endAt p now = .finished (.error (.timeout n budget)) ↔
      ∃ deadline, p.deadline = some (deadline, budget) ∧ p.isComplete = false ∧
        deadline.nanos ≤ now.nanos ∧ n = p.unmatched := by
  unfold endAt
  rcases p.deadline with _ | ⟨deadline, given⟩
  · simp
  · simp only [Instant.reached, Bool.and_eq_true, Bool.not_eq_true', decide_eq_true_eq]
    split
    case isTrue hlate =>
      simp [hlate, eq_comm, and_comm]
    case isFalse hnot =>
      simp only [reduceCtorEq, Option.some.injEq, Prod.mk.injEq, false_iff]
      rintro ⟨_, ⟨rfl, -⟩, hincomplete, hlate, -⟩
      exact hnot ⟨hincomplete, hlate⟩

/-- A comparison goes on as it is, and only if it is complete or its time is not over. -/
theorem of_endAt_eq_again {now : Instant} (h : endAt p now = .again p') :
    p' = p ∧ ∀ deadline budget, p.deadline = some (deadline, budget) → p.isComplete = false →
      now.nanos < deadline.nanos := by
  unfold endAt at h
  split at h
  case h_1 hnone => exact ⟨(Progress.Next.again.inj h).symm, by simp [hnone]⟩
  case h_2 deadline budget hsome =>
    split at h
    case isTrue => cases h
    case isFalse hnot =>
      refine ⟨(Progress.Next.again.inj h).symm, fun other _ hother hincomplete => ?_⟩
      obtain ⟨rfl, -⟩ := Prod.mk.inj (Option.some.inj (hsome.symm.trans hother))
      simpa [Instant.reached, hincomplete] using hnot

/-- How a round goes on after its lookups and the check of the time. -/
def afterCheck : Except Error Progress → Progress.Next
  | .error e => .finished (.error e)
  | .ok p => .again p

/-- The check of the time asks for the instant only, and decides by it how the round ends. -/
theorem checkDeadline_onTime (hfaithful : p.Faithful j targets u.2) :
    p.checkDeadline.Achieves (noted Prompt) u fun result v =>
      afterCheck result = endAt p v.1.2 ∧ p.Faithful j targets v.2 ∧
        (∃ asked, v.2 = u.2 ++ asked ∧ Attributed asked) ∧
        u.1.1.SendsFalse v.1.1 ∧ v.1.2 = u.1.2 := by
  obtain ⟨s, history⟩ := u
  unfold Progress.checkDeadline endAt
  cases p.deadline with
  | none => exact ⟨rfl, hfaithful, ⟨[], (List.append_nil _).symm, rfl⟩, .refl, rfl⟩
  | some d =>
    refine achieves_instant fun signal hsends => ?_
    have hlater := hfaithful.quiet (x := ⟨.instant, s.2⟩) ⟨rfl, rfl, rfl, rfl⟩
    simp only [pure, Flow.bind]
    split
    case isTrue hlate => exact ⟨(if_pos hlate).symm, hlater, ⟨_, rfl, rfl⟩, hsends, rfl⟩
    case isFalse hearly => exact ⟨(if_neg hearly).symm, hlater, ⟨_, rfl, rfl⟩, hsends, rfl⟩

/-- A round of a comparison that was not complete: what it remembers afterwards and what has happened. -/
structure LooksUp (j : Job) (targets : List Run.Identifier) (p : Progress) (u : Moment)
    (p' : Progress) (v : Moment) : Prop where
  faithful : p'.Faithful j targets v.2
  asked : ∃ asked, v.2 = u.2 ++ asked ∧ Attributed asked ∧
    ∀ t ∈ targets, t ∉ measured v.2 → inVain t ∈ asked
  deadline : p'.deadline = p.deadline
  isListening : p'.isListening = true
  signal : u.1.1.SendsFalse v.1.1
  le_clock : u.1.2.nanos ≤ v.1.2.nanos
  clock_le : v.1.2.nanos ≤ u.1.2.nanos + j.config.pollInterval.nanos
  woken : WokenBy j.config.pollInterval p u p'.seen v

/-- A round of a complete comparison ends it at once with its outcome. -/
theorem round_of_isComplete (hcomplete : p.isComplete = true) :
    p.round j = .done (.finished (.ok p.outcome)) := by
  unfold Progress.round
  rw [if_pos hcomplete]
  rfl

/-- While the signal stays false, a comparison that is not complete waits, looks for its targets and
checks the time. -/
theorem round_onTime (hfaithful : p.Faithful j targets u.2) (hincomplete : p.isComplete = false)
    (hlistening : p.isListening = true) (hquiet : u.1.1.Quiet) :
    (p.round j).Achieves (noted Prompt) u fun next v =>
      ∃ p', LooksUp j targets p u p' v ∧ next = endAt p' v.1.2 := by
  obtain ⟨s, history⟩ := u
  unfold Progress.round
  rw [if_neg (by simp [hincomplete])]
  refine achieves_signal fun signal hasked => ?_
  simp only [bind, pure, Flow.bind]
  rw [if_neg (by simp [(hquiet.sendsFalse hasked).value])]
  have hfaithful₁ := hfaithful.quiet (x := ⟨.signal, signal⟩) ⟨rfl, rfl, rfl, rfl⟩
  refine ((wake_onTime j.config hlistening (hquiet.sendsFalse hasked)).and_ensures
    (wake_throughout j.config hfaithful₁).ensures).bind ?_
  rintro woken v ⟨⟨seen, rfl, hwaits⟩, hfaithful₂⟩
  have hsought : ∀ t ∈ p.targets, t ∈ targets := fun t ht =>
    Progress.mem_distinct.mp (hfaithful.distinct ▸ ht)
  refine ((lookUpAll_onTime j _ _ v).and_ensures
    (lookUpAll_throughout hfaithful₂ hsought).ensures).bind ?_
  rintro result w ⟨⟨p', rfl, hlooks⟩, hfaithful₃⟩
  refine (checkDeadline_onTime hfaithful₃).bind ?_
  rintro result z ⟨hresult, hfaithful₄, hchecked, hsends, hclock⟩
  have hclock' : z.1.2 = v.1.2 := hclock.trans hlooks.clock
  have hlater : v.1.1.SendsFalse z.1.1 := hlooks.signal.trans hsends
  -- What was asked in this round: the signal, the wait, the lookups, and the checks at the end.
  have hround : LooksUp j targets p (s, history) p' z := by
    refine ⟨hfaithful₄, ?_, hlooks.deadline, hlooks.isListening.trans hlistening,
      (hasked.trans hwaits.signal).trans hlater, hclock' ▸ hwaits.le_clock,
      hclock' ▸ hwaits.clock_le, hlooks.seen ▸ hwaits.woken.widen hasked rfl hlater hclock'⟩
    obtain ⟨waited, hwaited, hattributed₁⟩ := hwaits.asked
    obtain ⟨looked, hlooked, hattributed₂, hvain⟩ := hlooks.asked
    obtain ⟨checked, hchecked, hattributed₃⟩ := hchecked
    have hsignal : Attributed [⟨.signal, signal⟩] := rfl
    refine ⟨[⟨.signal, signal⟩] ++ waited ++ looked ++ checked, ?_,
      ((hsignal.append hattributed₁).append hattributed₂).append hattributed₃, fun t ht hnot => ?_⟩
    · rw [hchecked, hlooked, hwaited]
      simp
    · rw [← hfaithful₄.matched] at hnot
      have hmem : t ∈ p.targets := hfaithful.distinct ▸ Progress.mem_distinct.mpr ht
      exact List.mem_append_left _ (List.mem_append_right _ (hvain t hmem hnot))
  cases result <;> exact ⟨p', hround, hresult⟩

end Comparison

end BenchQueue
