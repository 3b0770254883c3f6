import BenchQueue.Proofs.Comparison.Messages
import BenchQueue.Proofs.Comparison.OnTime

/-!
# The time of a comparison

A comparison with a time budget gives up in the first round whose lookups are at its end or later, if
they have not found all targets by then, and in no other round. It is not late by more than the time
between two rounds, and it gets there: every round takes that time or answers to news of the signal.
-/

namespace BenchQueue.Comparison

open BenchQueue.Flow (noted)

/-- The distinct targets that were not found. -/
def missing (targets : List Run.Identifier) (history : List Exchange) : Finset Run.Identifier :=
  targets.toFinset \ (measured history).toFinset

/-- Rounds of a comparison one after the other that did not end it, with the instants of their
lookups. -/
inductive Rounds (j : Job) (p : Progress) (u : Moment) : List Instant → Progress → Moment → Prop
  | start : Rounds j p u [] p u
  | again {looks : List Instant} {q q' : Progress} {v w : Moment} (h : Rounds j p u looks q v)
      (hround : (q.round j).Ends (noted Prompt) v (.again q') w) :
      Rounds j p u (looks ++ [w.1.2]) q' w

variable {j : Job} {targets : List Run.Identifier} {p p' q : Progress} {s : Signal × Instant}
  {u v : Moment} {looks : List Instant} {next : Progress.Next} {history : List Exchange}
  {budget : Duration} {n : Nat}

/-! ## Missing targets -/

/-- The number of targets that a comparison takes for unmatched is that of the missing ones. -/
theorem Progress.Faithful.unmatched_eq (h : p.Faithful j targets history) :
    p.unmatched = (missing targets history).card := by
  have hnodup : (p.targets.filter fun t => t ∉ p.matched).Nodup := by
    rw [h.distinct]
    exact (Progress.nodup_distinct targets).filter _
  rw [Progress.unmatched, ← List.toFinset_card_of_nodup hnodup]
  congr 1
  ext t
  simp [missing, h.distinct, h.matched, Progress.mem_distinct]

/-- A comparison is complete if and only if no target is missing. -/
theorem Progress.Faithful.isComplete_iff (h : p.Faithful j targets history) :
    p.isComplete = true ↔ (missing targets history).card = 0 := by
  constructor
  · intro hcomplete
    rw [Finset.card_eq_zero, missing, Finset.sdiff_eq_empty_iff_subset]
    intro t ht
    exact List.mem_toFinset.mpr (((h.complete hcomplete).1 t).mpr (List.mem_toFinset.mp ht))
  · intro hnone
    rw [Finset.card_eq_zero, missing, Finset.sdiff_eq_empty_iff_subset] at hnone
    have hle := Finset.card_le_card hnone
    rw [← Progress.length_distinct, List.toFinset_card_of_nodup h.orderly.once, ← h.matched,
      ← h.distinct] at hle
    exact decide_eq_true hle

/-! ## The course of a comparison -/

/-- A comparison that started at a moment, after rounds with lookups at some instants. As long as it is not
complete, its time is not over. Every round has taken the time between two rounds, or it is one of those
that have heard of a change of the signal. -/
structure OnCourse (j : Job) (targets : List Run.Identifier) (s : Signal × Instant)
    (looks : List Instant) (p : Progress) (u : Moment) : Prop where
  faithful : p.Faithful j targets u.2
  attributed : Attributed u.2
  isListening : p.isListening = true
  deadline : p.deadline = j.config.timeout.map fun budget => (⟨s.2.nanos + budget.nanos⟩, budget)
  signal : s.1.SendsFalse u.1.1
  clock : ∀ budget, j.config.timeout = some budget →
    u.1.2.nanos ≤ s.2.nanos + budget.nanos + j.config.pollInterval.nanos
  early : ∀ budget, j.config.timeout = some budget → p.isComplete = false →
    u.1.2.nanos ≤ s.2.nanos + budget.nanos ∧ ∀ look ∈ looks, look.nanos < s.2.nanos + budget.nanos
  rounds : ∃ heard, s.2.nanos + looks.length * j.config.pollInterval.nanos ≤
      u.1.2.nanos + heard * j.config.pollInterval.nanos ∧
    (heard = 0 ∨ s.1.changes + heard ≤ p.seen + 1 ∧ p.seen ≤ u.1.1.changes)

/-- Nothing has happened yet at the instant at which a comparison starts. -/
theorem onCourse_start (hfaithful : p.Faithful j targets u.2) (hattributed : Attributed u.2)
    (hlistening : p.isListening = true)
    (hdeadline : p.deadline = j.config.timeout.map fun budget =>
      (⟨s.2.nanos + budget.nanos⟩, budget))
    (hsignal : s.1.SendsFalse u.1.1) (hclock : u.1.2 = s.2) : OnCourse j targets s [] p u where
  faithful := hfaithful
  attributed := hattributed
  isListening := hlistening
  deadline := hdeadline
  signal := hsignal
  clock := fun budget _ => by
    rw [hclock, Nat.add_assoc]
    exact Nat.le_add_right _ _
  early := fun budget _ _ => ⟨hclock ▸ Nat.le_add_right _ _, by simp⟩
  rounds := ⟨0, by simp [hclock], Or.inl rfl⟩

/-- A comparison starts if the end of its time exists. -/
theorem start_onCourse (seen : Nat) (hbudget : ∀ budget, j.config.timeout = some budget →
      ∃ deadline, s.2.after? budget = some deadline) :
    (Progress.start j.config targets seen).Achieves (noted Prompt) (s, []) fun p u =>
      OnCourse j targets s [] p u := by
  have hstart : (Progress.start j.config targets seen).Achieves (noted Prompt) (s, []) fun p u =>
      p.Faithful j targets u.2 → OnCourse j targets s [] p u := by
    unfold Progress.start
    cases htimeout : j.config.timeout with
    | none => exact fun hfaithful => onCourse_start hfaithful rfl rfl (by rw [htimeout]; rfl) .refl rfl
    | some budget =>
      refine achieves_instant fun signal hsends => ?_
      obtain ⟨⟨deadline⟩, hdeadline⟩ := hbudget budget htimeout
      obtain rfl : deadline = s.2.nanos + budget.nanos := (Instant.nanos_of_after? hdeadline).1
      simp only [pure, Flow.bind, hdeadline]
      exact fun hfaithful => onCourse_start hfaithful rfl rfl (by rw [htimeout]; rfl) hsends rfl
  refine (hstart.and_ensures (start_throughout j targets seen).ensures).mono ?_
  exact fun p u h => h.1 h.2

/-- A round that did not end the comparison keeps it on its course. -/
theorem OnCourse.round (h : OnCourse j targets s looks q u) (hincomplete : q.isComplete = false)
    (hround : LooksUp j targets q u p v) (hagain : endAt p v.1.2 = .again p') :
    OnCourse j targets s (looks ++ [v.1.2]) p' v := by
  obtain ⟨rfl, hearly⟩ := of_endAt_eq_again hagain
  have hdeadline := hround.deadline.trans h.deadline
  refine {
    faithful := hround.faithful
    attributed := ?attributed
    isListening := hround.isListening
    deadline := hdeadline
    signal := h.signal.trans hround.signal
    clock := ?clock
    early := ?early
    rounds := ?rounds }
  case attributed =>
    obtain ⟨asked, hasked, hattributed, -⟩ := hround.asked
    rw [hasked]
    exact h.attributed.append hattributed
  case clock =>
    intro budget htimeout
    have hbefore := (h.early budget htimeout hincomplete).1
    have hclock := hround.clock_le
    omega
  case early =>
    intro budget htimeout hincomplete'
    have hlook : v.1.2.nanos < s.2.nanos + budget.nanos :=
      hearly ⟨s.2.nanos + budget.nanos⟩ budget (by rw [hdeadline, htimeout]; rfl) hincomplete'
    refine ⟨hlook.le, fun look hmem => ?_⟩
    rcases List.mem_append.mp hmem with hmem | hmem
    · exact (h.early budget htimeout hincomplete).2 look hmem
    · rwa [List.mem_singleton.mp hmem]
  case rounds =>
    obtain ⟨heard, hlength, hheard⟩ := h.rounds
    have hchanges := hround.signal.changes_le
    have hsent := h.signal.changes_le
    rw [List.length_append, List.length_singleton, Nat.add_mul, Nat.one_mul]
    -- A round that does not take its time has seen a later change than the rounds before it.
    cases hround.woken with
    | time hseen hclock =>
      rw [hseen, hclock]
      exact ⟨heard, by omega, by omega⟩
    | news hnew hlow hhigh =>
      refine ⟨heard + 1, ?_, by omega⟩
      have hclock := hround.le_clock
      rw [Nat.add_mul, Nat.one_mul]
      omega

/-- While the signal stays false, the rounds of a comparison that were not the last one keep it on its
course. -/
theorem Rounds.onCourse (hrounds : Rounds j p u looks q v) (hstart : OnCourse j targets s [] p u)
    (hquiet : s.1.Quiet) : OnCourse j targets s looks q v := by
  induction hrounds with
  | start => exact hstart
  | @again looks q q' v w _ hround ih =>
    cases hcomplete : q.isComplete with
    | true =>
      rw [round_of_isComplete hcomplete] at hround
      cases hround
    | false =>
      have hlooks := round_onTime ih.faithful hcomplete ih.isListening (hquiet.sendsFalse ih.signal)
      obtain ⟨p', hlooks, hagain⟩ := hlooks.ensures _ _ hround
      exact ih.round hcomplete hlooks hagain.symm

/-- There are no more rounds than the time of a comparison and the values that were sent allow. -/
theorem OnCourse.length_le (h : OnCourse j targets s looks p u)
    (hinterval : 0 < j.config.pollInterval.nanos) (htimeout : j.config.timeout = some budget) :
    looks.length ≤ budget.nanos / j.config.pollInterval.nanos +
      (u.1.1.changes - s.1.changes) + 2 := by
  obtain ⟨heard, hlength, hheard⟩ := h.rounds
  have hclock := h.clock budget htimeout
  have hsent := h.signal.changes_le
  have hle : heard ≤ u.1.1.changes - s.1.changes + 1 := by omega
  have hmul := Nat.mul_le_mul_right j.config.pollInterval.nanos hle
  have hdiv : looks.length - (u.1.1.changes - s.1.changes + 2) ≤
      budget.nanos / j.config.pollInterval.nanos := by
    rw [Nat.le_div_iff_mul_le hinterval, Nat.sub_mul]
    rw [Nat.add_mul] at hmul ⊢
    omega
  omega

/-! ## The last round -/

/-- The lookups of a round are at an instant or later, and those of all rounds before it were
earlier. -/
def IsFirstAfter (deadline : Nat) (looks : List Instant) (look : Instant) : Prop :=
  deadline ≤ look.nanos ∧ ∀ earlier ∈ looks, earlier.nanos < deadline

/-- What a round of a comparison that started at an instant has to do with its time: it gives the
comparison up if and only if it is the first one after the end of the time and targets are missing, and
then it is not late by more than the time between two rounds. -/
structure KeepsTime (j : Job) (targets : List Run.Identifier) (start : Instant)
    (looks : List Instant) (next : Progress.Next) (v : Moment) : Prop where
  timeout_iff : ∀ n budget, next = .finished (.error (.timeout n budget)) ↔
    j.config.timeout = some budget ∧ IsFirstAfter (start.nanos + budget.nanos) looks v.1.2 ∧
      n = (missing targets v.2).card ∧ 0 < n
  le : ∀ n budget, next = .finished (.error (.timeout n budget)) →
    v.1.2.nanos ≤ start.nanos + budget.nanos + j.config.pollInterval.nanos

/-- A comparison that is complete ends with its outcome, however much time is left. -/
theorem OnCourse.keepsTime_of_isComplete {result : Except Error Outcome}
    (h : OnCourse j targets s looks p u) (hcomplete : p.isComplete = true)
    (hresult : result = .ok p.outcome) :
    KeepsTime j targets s.2 looks (.finished result) u := by
  subst hresult
  have hnone := h.faithful.isComplete_iff.mp hcomplete
  refine ⟨fun n budget => ⟨nofun, ?_⟩, nofun⟩
  rintro ⟨-, -, rfl, hpos⟩
  omega

/-- A round of a comparison that is not complete gives it up exactly when its time says so. -/
theorem OnCourse.keepsTime (h : OnCourse j targets s looks p u) (hincomplete : p.isComplete = false)
    (hround : LooksUp j targets p u p' v) : KeepsTime j targets s.2 looks (endAt p' v.1.2) v := by
  have hunmatched := hround.faithful.unmatched_eq
  have hcomplete := hround.faithful.isComplete_iff
  have hdeadline := hround.deadline.trans h.deadline
  constructor
  · intro n budget
    rw [endAt_eq_timeout_iff, hdeadline]
    constructor
    · rintro ⟨deadline, hsome, hincomplete', hlate, rfl⟩
      obtain ⟨given, htimeout, hgiven⟩ := Option.map_eq_some_iff.mp hsome
      obtain ⟨rfl, rfl⟩ := Prod.mk.inj hgiven
      refine ⟨htimeout, ⟨hlate, (h.early given htimeout hincomplete).2⟩, hunmatched, ?_⟩
      rw [hunmatched, Nat.pos_iff_ne_zero]
      exact fun hnone => by simp [hcomplete.mpr hnone] at hincomplete'
    · rintro ⟨htimeout, ⟨hlate, -⟩, rfl, hpos⟩
      refine ⟨⟨s.2.nanos + budget.nanos⟩, by rw [htimeout]; rfl, ?_, hlate, hunmatched.symm⟩
      exact Bool.eq_false_iff.mpr fun hdone => hpos.ne' (hcomplete.mp hdone)
  · intro n budget htimeout
    rw [endAt_eq_timeout_iff, hdeadline] at htimeout
    obtain ⟨deadline, hsome, -⟩ := htimeout
    obtain ⟨given, htimeout, hgiven⟩ := Option.map_eq_some_iff.mp hsome
    obtain ⟨-, rfl⟩ := Prod.mk.inj hgiven
    have hbefore := (h.early given htimeout hincomplete).1
    have hclock := hround.clock_le
    omega

/-- The next round of a comparison on its course looks for all targets that are missing after it. -/
theorem OnCourse.round_achieves (h : OnCourse j targets s looks p u) (hquiet : s.1.Quiet) :
    (p.round j).Achieves (noted Prompt) u fun next v =>
      Attributed v.2 ∧
      (∃ asked, v.2 = u.2 ++ asked ∧ ∀ t ∈ missing targets v.2, inVain t ∈ asked) ∧
      KeepsTime j targets s.2 looks next v := by
  cases hcomplete : p.isComplete with
  | true =>
    have hnone := h.faithful.isComplete_iff.mp hcomplete
    rw [round_of_isComplete hcomplete]
    refine ⟨h.attributed, ⟨[], (List.append_nil _).symm, ?_⟩, h.keepsTime_of_isComplete hcomplete rfl⟩
    simp [Finset.card_eq_zero.mp hnone]
  | false =>
    have hround := round_onTime h.faithful hcomplete h.isListening (hquiet.sendsFalse h.signal)
    refine hround.mono ?_
    rintro next v ⟨p', hlooks, rfl⟩
    obtain ⟨asked, hasked, hattributed, hvain⟩ := hlooks.asked
    refine ⟨hasked ▸ h.attributed.append hattributed, ⟨asked, hasked, fun t ht => ?_⟩,
      h.keepsTime hcomplete hlooks⟩
    obtain ⟨htarget, hnot⟩ := Finset.mem_sdiff.mp ht
    exact hvain t (List.mem_toFinset.mp htarget) fun hmem => hnot (List.mem_toFinset.mpr hmem)

/-- A comparison whose end of time exists starts. As long as the stop signal stays false, each of its
rounds ends and has looked for the targets that are missing after it, and there are only so many rounds
until its time is over. It is given up in the first round after the end of its time, if then targets are
missing, and in no other one. -/
theorem timeout_in_first_round_after_budget (j : Job) (targets : List Run.Identifier) (seen : Nat)
    {s : Signal × Instant} (hquiet : s.1.Quiet) (hinterval : 0 < j.config.pollInterval.nanos)
    (hbudget : ∀ budget, j.config.timeout = some budget →
      ∃ deadline, s.2.after? budget = some deadline) :
    (Progress.start j.config targets seen).Achieves (noted Prompt) (s, []) fun p u =>
      ∀ looks q v, Rounds j p u looks q v →
        (∀ budget, j.config.timeout = some budget →
          looks.length ≤ budget.nanos / j.config.pollInterval.nanos +
            (v.1.1.changes - s.1.changes) + 2) ∧
        (q.round j).Achieves (noted Prompt) v fun next w =>
          Attributed w.2 ∧
          (∃ asked, w.2 = v.2 ++ asked ∧ ∀ t ∈ missing targets w.2, inVain t ∈ asked) ∧
          KeepsTime j targets s.2 looks next w := by
  refine (start_onCourse seen hbudget).mono fun p u hstart looks q v hrounds => ?_
  have hcourse := hrounds.onCourse hstart hquiet
  exact ⟨fun budget htimeout => hcourse.length_le hinterval htimeout, hcourse.round_achieves hquiet⟩

/-- The shortest duration that is not empty. -/
def oneNano : Duration := ⟨1, by decide⟩

/-- A comparison of a nightly run that has as much time as there is between two rounds. -/
def hastyJob : Job :=
  { nightlyJob with config := { pollInterval := oneNano, timeout := some oneNano } }

/-- The hasty comparison before its first round. -/
def hastyStart : Progress where
  targets := [nightlyTarget "a"]
  deadline := some (⟨1⟩, oneNano)

/-- A request that is answered on time, while nothing is sent. -/
theorem ends_prompt {α : Type} {effect : Effect} {next : effect.Answer → Task α} {a : α}
    {answer : effect.Answer} {t : Instant} (hsignal : WhileFalse effect {} answer {})
    (htime : OnTime effect s.2 answer t)
    (hnext : (next answer).Ends (noted Prompt) (({}, t), history ++ [⟨effect, answer⟩]) a v) :
    (Flow.ask effect next : Task α).Ends (noted Prompt) (({}, s.2), history) a v :=
  .ask ⟨⟨hsignal, htime⟩, rfl⟩ hnext

/-- The hasty comparison starts with one nanosecond left. -/
theorem hastyJob_start : (Progress.start hastyJob.config [nightlyTarget "a"] 0).Ends (noted Prompt)
      (({}, .start), []) hastyStart (({}, .start), [⟨.instant, .start⟩]) :=
  ends_prompt (s := ({}, .start)) (.other .refl (by simp) (by simp) _) (.instant _) (.done _ _)

/-- A round whose lookup, one nanosecond later, finds nothing. -/
def hastyHistory : List Exchange :=
  [⟨.instant, Instant.start⟩, ⟨.signal, {}⟩, ⟨.instant, Instant.start⟩,
    ⟨.wait (some ⟨1⟩) (some 0), Wake.elapsed⟩, inVain (nightlyTarget "a"), ⟨.instant, ⟨1⟩⟩]

/-- After the first round the time of the hasty comparison is over. -/
theorem hastyJob_round : (hastyStart.round hastyJob).Ends (noted Prompt)
    (({}, .start), [⟨.instant, .start⟩]) (endAt hastyStart ⟨1⟩) (({}, ⟨1⟩), hastyHistory) := by
  refine ends_prompt (s := ({}, .start)) (.signal .refl) (.signal _ _) ?_
  refine ends_prompt (s := ({}, .start)) (.other .refl (by simp) (by simp) _) (.instant _) ?_
  refine ends_prompt (s := ({}, .start)) (t := ⟨1⟩) (.elapsed .refl) (.elapsed _ (by decide)) ?_
  refine ends_prompt (s := ({}, ⟨1⟩)) (.other .refl (by simp) (by simp) _)
    (.findFinished _ none _) ?_
  refine ends_prompt (s := ({}, ⟨1⟩)) (.other .refl (by simp) (by simp) _) (.instant _) ?_
  exact .done _ _

/-- A target that is not found in the first round, at the end of the time, is given up in this round. -/
theorem timeout_in_first_round_after_budget_hasty :
    ({} : Signal).Quiet ∧ 0 < hastyJob.config.pollInterval.nanos ∧
      Instant.start.after? oneNano = some ⟨1⟩ ∧
      (Progress.start hastyJob.config [nightlyTarget "a"] 0).Ends (noted Prompt)
        (({}, .start), []) hastyStart (({}, .start), [⟨.instant, .start⟩]) ∧
      (hastyStart.round hastyJob).Ends (noted Prompt) (({}, .start), [⟨.instant, .start⟩])
        (.finished (.error (.timeout 1 oneNano))) (({}, ⟨1⟩), hastyHistory) := by
  have hquiet : ({} : Signal).Quiet := ⟨rfl, rfl⟩
  have hafter : Instant.start.after? oneNano = some ⟨1⟩ := rfl
  have hbudget : ∀ budget, hastyJob.config.timeout = some budget →
      ∃ deadline, (({}, .start) : Signal × Instant).2.after? budget = some deadline := by
    rintro budget ⟨⟩
    exact ⟨_, hafter⟩
  have hcourse := timeout_in_first_round_after_budget hastyJob [nightlyTarget "a"] 0 hquiet
    (by decide) hbudget
  obtain ⟨-, hachieves⟩ := hcourse.ensures _ _ hastyJob_start [] _ _ .start
  obtain ⟨-, -, hkeeps⟩ := hachieves.ensures _ _ hastyJob_round
  have htimeout : endAt hastyStart ⟨1⟩ = .finished (.error (.timeout 1 oneNano)) :=
    (hkeeps.timeout_iff 1 oneNano).mpr ⟨rfl, ⟨le_rfl, by simp⟩, by decide, by decide⟩
  exact ⟨hquiet, by decide, hafter, hastyJob_start, htimeout ▸ hastyJob_round⟩

end BenchQueue.Comparison
