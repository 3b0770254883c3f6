import BenchQueue.Proofs.Flow
import BenchQueue.Comparison.Progress
import BenchQueue.Scheduling.Dispatcher
import BenchQueue.Worker.Cron
import Mathlib.Logic.Relation

/-!
# Listeners of a signal that stays false

Three loops wait for an instant or for news of the stop signal. A value false is news for all of them.
The dispatch loop dispatches once more and goes on, and a comparison looks for its targets and goes on.
The regular submissions do not ask for the value: they end at any news.
-/

namespace BenchQueue

namespace Signal

variable {s s' : Signal}

/-- The value false is sent, any number of times. -/
def SendsFalse : Signal → Signal → Prop := Relation.ReflTransGen fun s s' => s' = s.send false

/-- Nobody is told to stop, and the sender is there. -/
structure Quiet (s : Signal) : Prop where
  value : s.value = false
  isOpen : s.isOpen = true

/-- The signal stays quiet when the value false is sent. -/
theorem Quiet.sendsFalse (h : s.Quiet) (hsends : s.SendsFalse s') : s'.Quiet := by
  induction hsends with
  | refl => exact h
  | tail _ hsent ih =>
    subst hsent
    exact ⟨rfl, ih.isOpen⟩

/-- A quiet signal does not bring the news that the sender is gone. -/
theorem Quiet.news_ne_closed (h : s.Quiet) (seen : Nat) : s.news seen ≠ .closed := by
  unfold news
  rw [h.isOpen]
  split <;> simp

/-- One value or two are news for a listener, whatever it has seen. -/
theorem exists_sendsFalse_news (s : Signal) (seen : Nat) :
    ∃ s', s.SendsFalse s' ∧ s'.news seen ≠ .nothing := by
  have hone : s.SendsFalse (s.send false) := .single rfl
  by_cases hseen : seen = s.changes + 1
  · refine ⟨(s.send false).send false, hone.tail rfl, ?_⟩
    simp [news, send, hseen]
  · exact ⟨s.send false, hone, by simp [news, send, hseen]⟩

end Signal

/-- The answers to a listener while the value false may be sent before each of them. A wait ends at
its instant or at news. -/
inductive WhileFalse : (effect : Effect) → Signal → effect.Answer → Signal → Prop
  | signal {s s' : Signal} (h : s.SendsFalse s') : WhileFalse .signal s s' s'
  | elapsed {limit : Instant} {seen : Option Nat} {s s' : Signal} (h : s.SendsFalse s') :
      WhileFalse (.wait (some limit) seen) s .elapsed s'
  | news {limit : Option Instant} {seen : Nat} {s s' : Signal} (h : s.SendsFalse s')
      (hnews : s'.news seen ≠ .nothing) :
      WhileFalse (.wait limit (some seen)) s (.news (s'.news seen)) s'
  | other {effect : Effect} {s s' : Signal} (h : s.SendsFalse s') (hsignal : effect ≠ .signal)
      (hwait : ∀ limit seen, effect ≠ .wait limit seen) (answer : effect.Answer) :
      WhileFalse effect s answer s'

namespace WhileFalse

variable {α : Type} {effect : Effect} {answer : effect.Answer} {s s' : Signal}
  {history : List (Flow.Exchange Effects)} {Q : α → Signal × List (Flow.Exchange Effects) → Prop}

/-- Between a request and its answer, only the value false is sent. -/
theorem sendsFalse (h : WhileFalse effect s answer s') : s.SendsFalse s' := by
  cases h <;> assumption

/-- A wait until an instant may be answered. -/
theorem exists_wait (limit : Option Instant) (seen : Nat) (s : Signal) :
    ∃ wake s', WhileFalse (.wait limit (some seen)) s wake s' := by
  obtain ⟨s', hsends, hnews⟩ := s.exists_sendsFalse_news seen
  exact ⟨_, s', .news hsends hnews⟩

/-- Whatever a flow asks, the signal stays quiet. -/
theorem quiet_of_ends {flow : Task α} {a : α} (hends : flow.Ends WhileFalse s a s')
    (h : s.Quiet) : s'.Quiet := by
  induction hends with
  | done _ _ => exact h
  | ask hanswer _ ih => exact ih (h.sendsFalse hanswer.sendsFalse)

/-- A request that is not about the signal has some answer, and may have any. -/
theorem achieves_other {next : effect.Answer → Task α} (default : effect.Answer)
    (hsignal : effect ≠ .signal) (hwait : ∀ limit seen, effect ≠ .wait limit seen) (hquiet : s.Quiet)
    (h : ∀ answer s', s'.Quiet →
      (next answer).Achieves (Flow.noted WhileFalse) (s', history ++ [⟨effect, answer⟩]) Q) :
    (Flow.ask effect next : Task α).Achieves (Flow.noted WhileFalse) (s, history) Q := by
  refine Flow.achieves_noted ⟨default, s, .other .refl hsignal hwait default⟩ ?_
  exact fun answer s' hanswer => h answer s' (hquiet.sendsFalse hanswer.sendsFalse)

end WhileFalse

/-! ## The dispatch loop -/

namespace Scheduling

open BenchQueue.Flow (noted Exchange)

variable {config : Config} {s : Signal} {history : List (Exchange Effects)}

/-- How often an element was asked for. -/
def dispatches (history : List (Exchange Effects)) : Nat :=
  history.countP fun x => x.1 matches .dispatch _

/-- A further exchange counts if it asks for an element. -/
theorem dispatches_concat (history : List (Exchange Effects)) (x : Exchange Effects) :
    dispatches (history ++ [x]) = dispatches history + if x.1 matches .dispatch _ then 1 else 0 := by
  unfold dispatches
  rw [List.countP_append, List.countP_singleton]

namespace Dispatcher

/-- A wake comes to an end, with a quiet signal and without asking for an element. -/
theorem wake_quiet (d : Dispatcher) (h : s.Quiet) :
    (d.wake config).Achieves (noted WhileFalse) (s, history) fun _ t =>
      t.1.Quiet ∧ dispatches t.2 = dispatches history := by
  refine Flow.achieves_noted (WhileFalse.exists_wait _ _ _) fun wake s' hwake => ?_
  have hquiet := h.sendsFalse hwake.sendsFalse
  have hcount := dispatches_concat history ⟨.wait (some d.nextTick) (some d.seen), wake⟩
  cases wake with
  | elapsed =>
    refine WhileFalse.achieves_other ⟨0⟩ (by simp) (by simp) hquiet fun now s'' hquiet' => ?_
    refine ⟨hquiet', ?_⟩
    rw [dispatches_concat, hcount]
    rfl
  | news news => cases news <;> exact ⟨hquiet, hcount⟩

/-- A round dispatches once, and the loop goes on. -/
theorem round_quiet (d : Dispatcher) (h : s.Quiet) :
    (d.round config).Achieves (noted WhileFalse) (s, history) fun next t =>
      next.isSome = true ∧ t.1.Quiet ∧ dispatches t.2 = dispatches history + 1 := by
  refine (wake_quiet d h).bind ?_
  rintro d ⟨s, later⟩ ⟨hquiet, hcount⟩
  refine Flow.achieves_noted ⟨s, s, .signal .refl⟩ fun signal s' hsignal => ?_
  cases hsignal with
  | other _ hne _ _ => exact absurd rfl hne
  | signal hsends =>
    have hquiet' := hquiet.sendsFalse hsends
    change Flow.Achieves _ (if signal.value || !signal.isOpen then _ else _) _ _
    rw [hquiet'.value, hquiet'.isOpen]
    refine WhileFalse.achieves_other none (by simp) (by simp) hquiet' fun found t ht => ?_
    cases found with
    | none =>
      refine ⟨rfl, ht, ?_⟩
      rw [dispatches_concat, dispatches_concat, hcount]
      rfl
    | some e =>
      refine WhileFalse.achieves_other () (by simp) (by simp) ht fun _ t' ht' => ?_
      refine ⟨rfl, ht', ?_⟩
      rw [dispatches_concat, dispatches_concat, dispatches_concat, hcount]
      rfl

/-- Rounds of the loop one after the other, up to the one that ends it. -/
def rounds (config : Config) : Nat → Dispatcher → Task (Option Dispatcher)
  | 0, d => pure (some d)
  | n + 1, d => do
    match ← d.round config with
    | none => pure none
    | some d => rounds config n d

/-- The loop never ends, and dispatches in every round. -/
theorem rounds_quiet (n : Nat) (d : Dispatcher) (h : s.Quiet) :
    (rounds config n d).Achieves (noted WhileFalse) (s, history) fun next t =>
      next.isSome = true ∧ dispatches t.2 = dispatches history + n := by
  induction n generalizing d s history with
  | zero => exact ⟨rfl, rfl⟩
  | succ n ih =>
    refine (round_quiet d h).bind ?_
    rintro (_ | d) ⟨s, later⟩ ⟨hnext, hquiet, hcount⟩
    · cases hnext
    · refine (ih d hquiet).mono fun next t ht => ⟨ht.1, ?_⟩
      rw [ht.2, hcount]
      omega

end Dispatcher

end Scheduling

/-! ## A comparison -/

namespace Comparison

variable {j : Job} {p : Progress} {s : Signal}

/-- A failure that is not about the signal or the time. -/
def Error.IsFault : Error → Prop
  | .store _ | .measurement _ | .notify _ => True
  | .timeout _ _ | .cancelled => False

namespace Progress

/-- A comparison that listens, and has no end of its time. -/
structure Patient (p : Progress) : Prop where
  deadline : p.deadline = none
  isListening : p.isListening = true

/-- What is left of a comparison after lookups, unless one of them failed. -/
def Kept : Except Error Progress → Prop
  | .ok p => p.Patient
  | .error e => e.IsFault

/-- A round that did not end because of the signal or the time. -/
def Next.Undisturbed : Next → Prop
  | .again p => p.Patient
  | .finished (.ok _) => True
  | .finished (.error e) => e.IsFault

/-- A lookup leaves a patient comparison patient, or it fails with a fault. -/
theorem lookUp_yields (h : p.Patient) (target : Run.Identifier) :
    (p.lookUp j target).Yields Kept := by
  intro found
  rcases found with e | _ | record
  · trivial
  · exact h
  · intro measured
    cases measured with
    | error e => trivial
    | ok summary =>
      have hreport : (report j target summary).Yields fun _ => True := by
        unfold report
        split
        · intro sent
          cases sent <;> trivial
        · trivial
      refine hreport.bind fun sent _ => ?_
      cases sent with
      | error e => trivial
      | ok n => exact ⟨h.deadline, h.isListening⟩

/-- Lookups one after the other leave a patient comparison patient, or one fails with a fault. -/
theorem lookUpAll_yields (h : p.Patient) (targets : List Run.Identifier) :
    (p.lookUpAll j targets).Yields Kept := by
  induction targets generalizing p with
  | nil => exact h
  | cons target rest ih =>
    unfold lookUpAll
    split
    · exact ih h
    · refine (lookUp_yields h target).bind fun result hkept => ?_
      cases result with
      | error e => exact hkept
      | ok p' => exact ih hkept

/-- A wait ends in another round of lookups. -/
theorem wake_quiet (c : Config) (h : s.Quiet) (hp : p.Patient) :
    (p.wake c).Ensures WhileFalse s fun woken _ => ∃ p', woken = .lookUp p' ∧ p'.Patient := by
  unfold wake
  rw [hp.isListening]
  refine Flow.ensures_ask fun now s' hnow => Flow.ensures_ask fun wake t hwake => ?_
  have hquiet := (h.sendsFalse hnow.sendsFalse).sendsFalse hwake.sendsFalse
  generalize now.after? c.pollInterval = limit at hwake
  cases hwake with
  | elapsed _ => exact Flow.ensures_done ⟨p, rfl, hp⟩
  | other _ _ hne _ => exact absurd rfl (hne _ _)
  | news _ hnews =>
    have hopen := hquiet.news_ne_closed p.seen
    cases hchanged : t.news p.seen with
    | nothing => exact absurd hchanged hnews
    | closed => exact absurd hchanged hopen
    | changed seen =>
      refine Flow.ensures_ask fun signal t' hsignal => ?_
      cases hsignal with
      | other _ hne _ _ => exact absurd rfl hne
      | signal hsends =>
        refine Flow.ensures_done ⟨{ p with isListening := true, seen }, ?_, hp.deadline, rfl⟩
        rw [(hquiet.sendsFalse hsends).value]
        rfl

/-- A round may end the comparison with its outcome or with a failure, but not because of the signal or
the time. -/
theorem round_quiet (h : s.Quiet) (hp : p.Patient) :
    (p.round j).Ensures WhileFalse s fun next _ => next.Undisturbed := by
  unfold round
  split
  · exact Flow.ensures_done trivial
  · refine Flow.ensures_ask fun signal s' hsignal => ?_
    cases hsignal with
    | other _ hne _ _ => exact absurd rfl hne
    | signal hsends =>
      have hquiet := h.sendsFalse hsends
      change Flow.Ensures _ (if signal.value then _ else _) _ _
      rw [hquiet.value]
      refine (wake_quiet j.config hquiet hp).bind ?_
      rintro woken t ⟨p', rfl, hp'⟩
      refine Flow.Yields.ensures ((lookUpAll_yields hp' p'.targets).bind fun result hkept => ?_)
      cases result with
      | error e => exact hkept
      | ok p'' =>
        change Flow.Yields _ (Flow.bind p''.checkDeadline _)
        unfold checkDeadline
        rw [hkept.deadline]
        exact hkept

/-- Rounds of a comparison one after the other, up to the one that ends it. -/
def rounds (j : Job) : Nat → Next → Task Next
  | 0, next => pure next
  | _ + 1, .finished result => pure (.finished result)
  | n + 1, .again p => do
    let next ← p.round j
    rounds j n next

/-- The signal and the time never end the comparison. -/
theorem rounds_quiet (n : Nat) {next : Next} (h : s.Quiet) (hnext : next.Undisturbed) :
    (rounds j n next).Ensures WhileFalse s fun next _ => next.Undisturbed := by
  induction n generalizing next s with
  | zero => exact Flow.ensures_done hnext
  | succ n ih =>
    cases next with
    | finished result => exact Flow.ensures_done hnext
    | again p =>
      intro last t hends
      obtain ⟨next, s', hround, hrest⟩ := Flow.ends_bind_iff.mp hends
      have hquiet := WhileFalse.quiet_of_ends hround h
      exact ih hquiet (round_quiet h hnext _ _ hround) last t hrest

end Progress

end Comparison

/-! ## The regular submissions -/

namespace Worker

open BenchQueue.Flow (noted)

/-- One value false may end the regular submissions at any time, the dispatch loop goes on and
dispatches in every round, and a comparison goes on until it has its outcome or fails. -/
theorem false_ends_regular_submissions (n : Nat) {s : Signal} (h : s.Quiet) :
    (∀ (config : Scheduling.Config) (d : Scheduling.Dispatcher),
      (Scheduling.Dispatcher.rounds config n d).Achieves (noted WhileFalse) (s, []) fun next t =>
        next.isSome = true ∧ Scheduling.dispatches t.2 = n) ∧
    (∀ (j : Comparison.Job) (p : Comparison.Progress), p.Patient →
      (Comparison.Progress.rounds j n (.again p)).Ensures WhileFalse s fun next _ =>
        next.Undisturbed) ∧
    ∀ (c : Cron) (l : Cron.Loop), l.seen = s.changes →
      (c.round l).Ends WhileFalse s none (s.send false) := by
  refine ⟨fun config d => ?_, fun j p hp => ?_, fun c l hseen => ?_⟩
  · refine (Scheduling.Dispatcher.rounds_quiet n d h).mono fun next t ht => ⟨ht.1, ?_⟩
    rw [ht.2]
    exact Nat.zero_add n
  · exact Comparison.Progress.rounds_quiet n h hp
  · have hsent : s.SendsFalse (s.send false) := .single rfl
    have hnews : (s.send false).news l.seen = .changed (s.changes + 1) := by
      simp [Signal.news, Signal.send, hseen]
    have hwake : WhileFalse (.wait (some l.nextTick) (some l.seen)) s
        (.news ((s.send false).news l.seen)) (s.send false) := .news hsent (by simp [hnews])
    exact .ask hwake (.done _ _)

end Worker

end BenchQueue
