import BenchQueue.Proofs.Scheduling.Exhaustion
import BenchQueue.Proofs.Scheduling.GivingBack
import Mathlib.Order.Bounds.Basic

/-!
# What an execution amounts to

While other tasks work on the queue, the attempts of an element end one after the other in a given
way, the first one first. The execution waits before each of them, stops at the first success or
when the budget is used up, begins a comparison only for a success, and gives the slot back once.
-/

namespace BenchQueue.Scheduling

variable {config : Config} {compares : Bool} {e : Element} {q : Queue} {p : RetryPolicy}
  {outcomes : Nat → AttemptEnd} {history : List (Flow.Exchange Effects)} {seen budget k : Nat}

/-! ## What is asked and answered -/

/-- How an attempt ended, if an exchange is about one. -/
def attemptEnd? : Flow.Exchange Effects → Option AttemptEnd
  | ⟨.attempt _ _, ending⟩ => some ending
  | _ => none

/-- How the attempts ended, in their order. -/
def attemptEnds (history : List (Flow.Exchange Effects)) : List AttemptEnd :=
  history.filterMap attemptEnd?

/-- The answers to an execution whose attempts end as given, by their numbers from one on; the
history is kept. -/
def Attempting (config : Config) (e : Element) (outcomes : Nat → AttemptEnd) :
    Flow.Surroundings Effects (Queue × List (Flow.Exchange Effects)) :=
  fun effect s answer t => Flow.noted (Executing config e) effect s answer t ∧
    ∀ ending ∈ attemptEnd? ⟨effect, answer⟩, ending = outcomes ((attemptEnds s.2).length + 1)

/-- The exchanges of a pause: none if it is empty, otherwise a look at the clock and a wait until
the pause is over. -/
inductive Paused (delay : Duration) : List (Flow.Exchange Effects) → Prop
  | skipped (hzero : delay.isZero = true) : Paused delay []
  | slept (hzero : delay.isZero = false) (now : Instant) (wake : Wake) :
      Paused delay [⟨.instant, now⟩, ⟨.wait (now.after? delay) none, wake⟩]

/-- The exchanges of the wait before an attempt, as long as the policy says. -/
inductive Waited (p : RetryPolicy) (attempt : UInt32) : List (Flow.Exchange Effects) → Prop
  | steady {delay : Duration} {pause : List (Flow.Exchange Effects)} (hjitter : ¬ 0.0 < p.jitter)
      (hdelay : p.steadyDelay? attempt = some delay) (hpause : Paused delay pause) :
      Waited p attempt pause
  | drawn {x : Float} {delay : Duration} {pause : List (Flow.Exchange Effects)}
      (hjitter : 0.0 < p.jitter) (hx : IsDrawn x)
      (hdelay : p.delay? (fun bound => bound * x) attempt = some delay)
      (hpause : Paused delay pause) : Waited p attempt (⟨.draw, x⟩ :: pause)

/-- The exchanges of a number of attempts: each of them comes after its wait and after the end of
the attempt before. -/
inductive Attempted (p : RetryPolicy) (e : Element) (outcomes : Nat → AttemptEnd) :
    Nat → List (Flow.Exchange Effects) → Prop
  | start : Attempted p e outcomes 0 []
  | attempt {k : Nat} {history wait : List (Flow.Exchange Effects)}
      (hbefore : Attempted p e outcomes k history) (hwait : Waited p (UInt32.ofNat (k + 1)) wait) :
      Attempted p e outcomes (k + 1)
        (history ++ wait ++ [⟨.attempt e.identifier e.configPath, outcomes (k + 1)⟩])

/-- The number of attempts made. -/
def Outcome.attempts : Outcome → Nat
  | .succeeded k | .exhausted k => k

/-- An attempt is the first one to succeed. -/
def FirstSuccess (outcomes : Nat → AttemptEnd) (k : Nat) : Prop :=
  IsLeast {n | 1 ≤ n ∧ (outcomes n).isSuccess = true} k

/-- The first attempts all fail. -/
def Failing (outcomes : Nat → AttemptEnd) (k : Nat) : Prop :=
  ∀ n, 1 ≤ n → n ≤ k → (outcomes n).isSuccess = false

/-- An outcome is the one that attempts within a budget lead to. -/
def Outcome.Follows (outcomes : Nat → AttemptEnd) (budget : Nat) : Outcome → Prop
  | .succeeded k => FirstSuccess outcomes k ∧ k ≤ budget
  | .exhausted k => Failing outcomes budget ∧ k = budget

/-- The exchanges at the end of an execution: a comparison begins after a success if comparisons are
made and there are targets, then the element is removed. -/
def concluding (compares : Bool) (e : Element) (seen : Nat) (outcome : Outcome) :
    List (Flow.Exchange Effects) :=
  match outcome with
  | .succeeded _ =>
    if compares ∧ e.compareWith ≠ [] then
      [⟨.beginComparison e.identifier e.compareWith e.notifyAlways seen, ()⟩,
        ⟨.release e.identifier, ()⟩]
    else [⟨.release e.identifier, ()⟩]
  | .exhausted _ => [⟨.release e.identifier, ()⟩]

/-! ## Outcomes -/

/-- With a first success within the budget, not all attempts of the budget fail. -/
theorem FirstSuccess.not_failing (h : FirstSuccess outcomes k) (hle : k ≤ budget) :
    ¬ Failing outcomes budget := by
  intro hfailing
  obtain ⟨⟨hone, hsuccess⟩, -⟩ := h
  rw [hfailing k hone hle] at hsuccess
  cases hsuccess

/-- The attempt after failing ones is the first success if it succeeds. -/
theorem Failing.firstSuccess (h : Failing outcomes k)
    (hsuccess : (outcomes (k + 1)).isSuccess = true) : FirstSuccess outcomes (k + 1) := by
  refine ⟨⟨by omega, hsuccess⟩, fun n hn => ?_⟩
  obtain ⟨hone, hn⟩ := hn
  by_contra hlt
  rw [h n hone (by omega)] at hn
  cases hn

/-- A further attempt that fails leaves only failures. -/
theorem Failing.succ (h : Failing outcomes k) (hfailed : (outcomes (k + 1)).isSuccess = false) :
    Failing outcomes (k + 1) := by
  intro n hone hle
  rcases Nat.eq_or_lt_of_le hle with rfl | hlt
  · exact hfailed
  · exact h n hone (by omega)

/-- Attempts lead to a success exactly if there is a first one within the budget. -/
theorem Outcome.Follows.eq_succeeded_iff {outcome : Outcome}
    (h : outcome.Follows outcomes budget) :
    outcome = .succeeded k ↔ FirstSuccess outcomes k ∧ k ≤ budget := by
  constructor
  · rintro rfl
    exact h
  · rintro ⟨hfirst, hle⟩
    cases outcome with
    | succeeded j => rw [h.1.unique hfirst]
    | exhausted j => exact absurd h.1 (hfirst.not_failing hle)

/-- Attempts exhaust the budget exactly if all that it allows fail. -/
theorem Outcome.Follows.eq_exhausted_iff {outcome : Outcome}
    (h : outcome.Follows outcomes budget) :
    outcome = .exhausted k ↔ Failing outcomes budget ∧ k = budget := by
  constructor
  · rintro rfl
    exact h
  · rintro ⟨hfailing, rfl⟩
    cases outcome with
    | succeeded j => exact absurd hfailing (h.1.not_failing h.2)
    | exhausted j => rw [h.2]

/-! ## Histories -/

/-- No attempt ends in a pause. -/
theorem Paused.attemptEnds {delay : Duration} {pause : List (Flow.Exchange Effects)}
    (h : Paused delay pause) : attemptEnds pause = [] := by
  cases h <;> rfl

/-- Nothing is attempted during a wait. -/
theorem Waited.attemptEnds {attempt : UInt32} {wait : List (Flow.Exchange Effects)}
    (h : Waited p attempt wait) : attemptEnds wait = [] := by
  cases h with
  | steady _ _ hpause => exact hpause.attemptEnds
  | drawn _ _ _ hpause => exact hpause.attemptEnds

/-- The attempts end as given. -/
theorem Attempted.attemptEnds (h : Attempted p e outcomes k history) :
    attemptEnds history = (List.range k).map fun n => outcomes (n + 1) := by
  induction h with
  | start => rfl
  | @attempt k history wait hbefore hwait ih =>
    unfold Scheduling.attemptEnds at ih ⊢
    rw [List.filterMap_append, List.filterMap_append, ih, List.range_succ, List.map_append]
    have hnone : wait.filterMap attemptEnd? = [] := hwait.attemptEnds
    rw [hnone, List.append_nil]
    rfl

/-! ## Answers -/

/-- A request that leaves the element where it is has an answer, and the slot is still there after
any answer. -/
theorem achieves_attempting {α : Type} (effect : Effect) {next : effect.Answer → Task α}
    {Q : α → Queue × List (Flow.Exchange Effects) → Prop} (answer : effect.Answer)
    (hkeeps : ∀ identifier, effect ≠ .release identifier) (hdrawn : Drawn effect () answer ())
    (hends : ∀ ending ∈ attemptEnd? ⟨effect, answer⟩,
      ending = outcomes ((attemptEnds history).length + 1))
    (hslot : HasSlot config.maxConcurrentJobs.toNat e q)
    (h : ∀ answer q', HasSlot config.maxConcurrentJobs.toNat e q' → Drawn effect () answer () →
      (∀ ending ∈ attemptEnd? ⟨effect, answer⟩,
        ending = outcomes ((attemptEnds history).length + 1)) →
      (next answer).Achieves (Attempting config e outcomes) (q', history ++ [⟨effect, answer⟩]) Q) :
    (Flow.ask effect next : Task α).Achieves (Attempting config e outcomes) (q, history) Q := by
  refine ⟨⟨answer, (q, history ++ [⟨effect, answer⟩]), ⟨.other hkeeps hdrawn .refl, rfl⟩, hends⟩, ?_⟩
  rintro a ⟨q', later⟩ ⟨⟨hexecuting, rfl⟩, ha⟩
  cases hexecuting with
  | release _ _ => exact absurd rfl (hkeeps _)
  | other _ hdrawn hmoves => exact h a q' (hslot.moves_all hmoves) hdrawn ha

/-- The removal of the element gives its slot back. -/
theorem release_achieves {α : Type} {next : Unit → Task α}
    {Q : α → Queue × List (Flow.Exchange Effects) → Prop}
    (h : (next ()).Achieves (Attempting config e outcomes)
      (q.release e.identifier, history ++ [⟨.release e.identifier, ()⟩]) Q) :
    (Flow.ask (.release e.identifier) next : Task α).Achieves (Attempting config e outcomes)
      (q, history) Q := by
  refine ⟨⟨(), (_, _), ⟨.release _ _, rfl⟩, nofun⟩, ?_⟩
  rintro a ⟨q', later⟩ ⟨⟨hexecuting, rfl⟩, -⟩
  cases hexecuting with
  | other hnot _ _ => exact absurd rfl (hnot _)
  | release _ _ => exact h

/-- A pause is over at some time. -/
theorem pause_achieves {delay : Duration} (hslot : HasSlot config.maxConcurrentJobs.toNat e q) :
    (if delay.isZero then pure () else Task.sleep delay : Task Unit).Achieves
      (Attempting config e outcomes) (q, history) fun _ t =>
        HasSlot config.maxConcurrentJobs.toNat e t.1 ∧
          ∃ pause, Paused delay pause ∧ t.2 = history ++ pause := by
  split
  case isTrue hzero => exact ⟨hslot, [], .skipped hzero, (List.append_nil history).symm⟩
  case isFalse hzero =>
    refine achieves_attempting Effect.instant default nofun (.other (by nofun) _) nofun hslot ?_
    intro now q' hslot _ _
    refine achieves_attempting (.wait _ none) .elapsed nofun (.other (by nofun) _) nofun hslot ?_
    intro wake q' hslot _ _
    exact ⟨hslot, _, .slept (Bool.not_eq_true _ ▸ hzero) now wake, List.append_assoc _ _ _⟩

/-- Without jitter the wait does not depend on what is drawn. -/
theorem delay?_eq_steadyDelay? (hjitter : ¬ 0.0 < p.jitter) (draw : Float → Float)
    (attempt : UInt32) : p.delay? draw attempt = p.steadyDelay? attempt := by
  have hzero : ¬ (0.0 : Float) < 0.0 := by decide +kernel
  unfold RetryPolicy.steadyDelay? RetryPolicy.delay? RetryPolicy.jittered?
  simp only [if_neg hjitter, if_neg hzero]
  rfl

/-- The wait before an attempt that there is a delay for. -/
theorem waitBefore_achieves {attempt : UInt32} (hdelay : HasDelay p attempt)
    (hslot : HasSlot config.maxConcurrentJobs.toNat e q) :
    (waitBefore p attempt).Achieves (Attempting config e outcomes) (q, history) fun _ t =>
      HasSlot config.maxConcurrentJobs.toNat e t.1 ∧
        ∃ wait, Waited p attempt wait ∧ t.2 = history ++ wait := by
  unfold waitBefore
  by_cases hjitter : 0.0 < p.jitter
  · rw [if_pos hjitter]
    refine achieves_attempting Effect.draw 0.0 nofun (.draw isDrawn_zero) nofun hslot ?_
    intro x q' hslot hdrawn _
    cases hdrawn with
    | other hnot _ => exact absurd rfl hnot
    | draw hx =>
      obtain ⟨delay, hsome⟩ := Option.isSome_iff_exists.mp (hdelay x hx)
      simp only [Flow.bind, hsome]
      refine (pause_achieves hslot).mono fun _ t ht => ?_
      obtain ⟨hslot, pause, hpause, hhistory⟩ := ht
      refine ⟨hslot, _, .drawn hjitter hx hsome hpause, ?_⟩
      rw [hhistory, List.append_assoc]
      rfl
  · rw [if_neg hjitter]
    obtain ⟨delay, hsome⟩ := Option.isSome_iff_exists.mp (hdelay 0.0 isDrawn_zero)
    have hsteady := (delay?_eq_steadyDelay? hjitter _ attempt).symm.trans hsome
    simp only [bind, pure, Flow.bind, delay?_eq_steadyDelay? hjitter, hsteady]
    refine (pause_achieves hslot).mono fun _ t ht => ?_
    obtain ⟨hslot, pause, hpause, hhistory⟩ := ht
    exact ⟨hslot, pause, .steady hjitter hsteady hpause, hhistory⟩

/-! ## Executions -/

/-- After a success nothing is left of the attempts, and the outcome counts those made. -/
theorem afterAttempt_of_success {remaining : Nat} {ending : AttemptEnd}
    (h : ending.isSuccess = true) :
    afterAttempt p e budget remaining ending = .done (.succeeded (budget - remaining)) := by
  cases ending with
  | panicked => cases h
  | returned result =>
    cases result with
    | error cause => cases h
    | ok _ => rfl

/-- After a failure the attempts go on with the rest of the budget. -/
theorem afterAttempt_of_failure {remaining : Nat} {ending : AttemptEnd}
    (h : ending.isSuccess = false) :
    afterAttempt p e budget remaining ending = attempts p e budget remaining := by
  cases ending with
  | panicked => rfl
  | returned result =>
    cases result with
    | error cause => rfl
    | ok _ => cases h

/-- After some failed attempts the others of a budget follow until the first success. -/
theorem attempts_achieves (remaining : Nat) (hle : remaining ≤ budget)
    (hdelays : HasDelays p budget remaining) (hslot : HasSlot config.maxConcurrentJobs.toNat e q)
    (hattempted : Attempted p e outcomes (budget - remaining) history)
    (hfailing : Failing outcomes (budget - remaining)) :
    (attempts p e budget remaining).Achieves (Attempting config e outcomes) (q, history)
      fun outcome t => HasSlot config.maxConcurrentJobs.toNat e t.1 ∧
        outcome.Follows outcomes budget ∧ Attempted p e outcomes outcome.attempts t.2 := by
  induction remaining generalizing q history with
  | zero => exact ⟨hslot, ⟨hfailing, rfl⟩, hattempted⟩
  | succ remaining ih =>
    obtain ⟨hdelay, hdelays⟩ := (hasDelays_succ hle).mp hdelays
    -- The number of the next attempt is one more than that of those made.
    obtain ⟨k, hk⟩ : ∃ k, budget - (remaining + 1) = k := ⟨_, rfl⟩
    have hnumber : budget - remaining = k + 1 := by omega
    rw [hk] at hattempted hfailing
    rw [hnumber] at hdelay ih
    rw [attempts_succ, hnumber]
    refine (waitBefore_achieves hdelay hslot).bind fun _ t ht => ?_
    obtain ⟨q', later⟩ := t
    obtain ⟨hslot, wait, hwait, rfl⟩ := ht
    have hcount : (attemptEnds (history ++ wait)).length = k := by
      rw [attemptEnds, List.filterMap_append, List.length_append]
      change (attemptEnds history).length + (attemptEnds wait).length = k
      rw [hattempted.attemptEnds, hwait.attemptEnds]
      simp
    refine achieves_attempting (.attempt _ _) (outcomes (k + 1)) nofun (.other (by nofun) _)
      (by rw [hcount]; rintro _ ⟨⟩; rfl) hslot ?_
    intro ending q' hslot _ hending
    obtain rfl : ending = outcomes (k + 1) := by
      rw [hcount] at hending
      exact hending ending rfl
    have hattempted := hattempted.attempt hwait
    cases hsuccess : (outcomes (k + 1)).isSuccess with
    | true =>
      rw [afterAttempt_of_success hsuccess, hnumber]
      exact ⟨hslot, ⟨hfailing.firstSuccess hsuccess, by omega⟩, hattempted⟩
    | false =>
      rw [afterAttempt_of_failure hsuccess]
      exact ih (by omega) hdelays hslot hattempted (hfailing.succ hsuccess)

/-- What is left of an execution after its attempts. -/
def conclude (compares : Bool) (e : Element) (seen : Nat) : Outcome → Task Outcome
  | .succeeded number => finishing compares e seen number
  | .exhausted number => givingBack e (.exhausted number)

/-- An execution is its attempts and what is concluded from their outcome. -/
theorem execute_eq_bind (config : Config) (compares : Bool) (e : Element) (seen : Nat) :
    execute config compares e seen =
      (attempts config.retryPolicy e e.maxAttempts.toNat e.maxAttempts.toNat).bind
        (conclude compares e seen) := by
  refine congrArg (Flow.bind _) (funext fun outcome => ?_)
  cases outcome <;> rfl

/-- What is left after the attempts comes to an end, says what belongs to the outcome and gives the
element back. -/
theorem conclude_achieves (compares : Bool) (seen : Nat) (outcome : Outcome)
    (hslot : HasSlot config.maxConcurrentJobs.toNat e q) :
    (conclude compares e seen outcome).Achieves (Attempting config e outcomes) (q, history)
      fun outcome' t => outcome' = outcome ∧
        t.2 = history ++ concluding compares e seen outcome ∧
        ∃ before, GivenBack config.maxConcurrentJobs.toNat e before t.1 := by
  cases outcome with
  | exhausted _ => exact release_achieves ⟨rfl, rfl, q, hslot.release⟩
  | succeeded number =>
    unfold conclude finishing startComparison concluding
    by_cases hcompares : compares = true ∧ e.compareWith ≠ []
    · have hbegin : (compares && !e.compareWith.isEmpty) = true := by simpa using hcompares
      rw [if_pos hbegin]
      simp only [if_pos hcompares]
      refine achieves_attempting (.beginComparison _ _ _ _) () nofun (.other (by nofun) _) nofun
        hslot ?_
      intro _ q' hslot _ _
      exact release_achieves ⟨rfl, List.append_assoc _ _ _, q', hslot.release⟩
    · have hbegin : ¬ (compares && !e.compareWith.isEmpty) = true := by simpa using hcompares
      rw [if_neg hbegin]
      simp only [if_neg hcompares]
      exact release_achieves ⟨rfl, rfl, q, hslot.release⟩

/-- An element has one attempt more than it has retries, but no more than its counter can hold. -/
theorem maxAttempts_eq_min (e : Element) :
    e.maxAttempts.toNat = min (e.retry.toNat + 1) (2 ^ 32 - 1) := by
  have hlt := e.retry.toNat_lt
  unfold Element.maxAttempts
  split
  case isTrue hretry =>
    rw [hretry]
    decide
  case isFalse hretry =>
    have hne : e.retry.toNat ≠ 4294967295 := fun hmax => hretry (UInt32.toNat_inj.mp hmax)
    rw [UInt32.toNat_add]
    change (e.retry.toNat + 1) % 4294967296 = _
    omega

/-- No attempt ends after the outcome is known. -/
theorem attemptEnds_concluding (compares : Bool) (seen : Nat) (outcome : Outcome) :
    attemptEnds (concluding compares e seen outcome) = [] := by
  cases outcome with
  | exhausted _ => rfl
  | succeeded _ =>
    unfold concluding
    dsimp only
    split <;> rfl

/-- With a delay before each attempt that its element may use, an execution makes attempts one after
the other, each after its wait. It ends with the number of the first success if that is within the
budget, having made so many attempts, and otherwise with the whole budget used. A comparison begins
once after a success, if there is something to compare, and never otherwise; last of all the element
is removed and its slot given back. -/
theorem execute_accounts (compares : Bool) (seen : Nat) (outcomes : Nat → AttemptEnd)
    (hbudget : budget = min (e.retry.toNat + 1) (2 ^ 32 - 1))
    (hdelays : ∀ n, 1 ≤ n → n ≤ budget → HasDelay config.retryPolicy (UInt32.ofNat n))
    (hslot : HasSlot config.maxConcurrentJobs.toNat e q) :
    (execute config compares e seen).Achieves (Attempting config e outcomes) (q, [])
      fun outcome t =>
        (∀ k, outcome = .succeeded k ↔ FirstSuccess outcomes k ∧ k ≤ budget) ∧
        (∀ k, outcome = .exhausted k ↔ Failing outcomes budget ∧ k = budget) ∧
        attemptEnds t.2 = (List.range outcome.attempts).map (fun n => outcomes (n + 1)) ∧
        (∃ attempted, Attempted config.retryPolicy e outcomes outcome.attempts attempted ∧
          t.2 = attempted ++ concluding compares e seen outcome) ∧
        ∃ before, GivenBack config.maxConcurrentJobs.toNat e before t.1 := by
  obtain rfl : budget = e.maxAttempts.toNat := hbudget.trans (maxAttempts_eq_min e).symm
  have hattempts : (attempts config.retryPolicy e e.maxAttempts.toNat e.maxAttempts.toNat).Achieves
      (Attempting config e outcomes) (q, []) fun outcome t =>
        HasSlot config.maxConcurrentJobs.toNat e t.1 ∧
          outcome.Follows outcomes e.maxAttempts.toNat ∧
            Attempted config.retryPolicy e outcomes outcome.attempts t.2 := by
    refine attempts_achieves _ le_rfl (fun n hlt hle => hdelays n (by omega) hle) hslot ?_ ?_
    · rw [Nat.sub_self]
      exact .start
    · rw [Nat.sub_self]
      exact fun n hone hle => absurd hle (by omega)
  rw [execute_eq_bind]
  refine hattempts.bind fun outcome t ht => ?_
  obtain ⟨q', attempted⟩ := t
  obtain ⟨hslot, hfollows, hattempted⟩ := ht
  refine (conclude_achieves compares seen outcome hslot).mono fun outcome' t ht => ?_
  obtain ⟨rfl, hhistory, hgiven⟩ := ht
  refine ⟨fun k => hfollows.eq_succeeded_iff, fun k => hfollows.eq_exhausted_iff, ?_,
    ⟨attempted, hattempted, hhistory⟩, hgiven⟩
  rw [hhistory, attemptEnds, List.filterMap_append]
  change attemptEnds attempted ++ attemptEnds (concluding compares e seen outcome') = _
  rw [attemptEnds_concluding, List.append_nil, hattempted.attemptEnds]

/-- The doubling policy has a wait before each of three attempts. -/
theorem hasDelay_doubling {n : Nat} (hlast : n ≤ 3) :
    HasDelay doubling.retryPolicy (UInt32.ofNat n) := by
  have hjitter : ¬ 0.0 < doubling.retryPolicy.jitter := by decide +kernel
  intro x _
  rw [delay?_eq_steadyDelay? hjitter]
  interval_cases n <;> decide +kernel

/-- An element that may be attempted three times and breaks down the first time: with waits that
double, it succeeds with the second attempt. -/
theorem execute_accounts_second :
    HasSlot 1 patientElement ⟨[patientElement], 1, 1⟩ ∧
      (execute doubling true patientElement 0).Achieves
        (Attempting doubling patientElement fun n => if n = 1 then .panicked else .returned (.ok ()))
        (⟨[patientElement], 1, 1⟩, []) fun outcome _ => outcome = .succeeded 2 := by
  have haccounts := execute_accounts true 0
    (fun n => if n = 1 then .panicked else .returned (.ok ()))
    (show 3 = min (patientElement.retry.toNat + 1) (2 ^ 32 - 1) from rfl)
    (fun n _ hlast => hasDelay_doubling hlast) hasSlot_patientElement
  refine ⟨hasSlot_patientElement, haccounts.mono fun outcome t ht => (ht.1 2).mpr ⟨?_, by decide⟩⟩
  refine ⟨⟨by decide, rfl⟩, fun n hn => ?_⟩
  obtain ⟨hone, hsuccess⟩ := hn
  by_contra hlt
  obtain rfl : n = 1 := by omega
  cases hsuccess

end BenchQueue.Scheduling
