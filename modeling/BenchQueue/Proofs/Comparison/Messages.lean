import BenchQueue.Proofs.Comparison.Rounds

/-!
# One message for each target

Whatever happens to the store, the stop signal, the measurements and the messages, a comparison
measures each target at most once, right after it was found, and sends at most one message about it.
It ends with the first failure, and if it succeeds it has counted all targets and all messages.
-/

namespace BenchQueue.Comparison

variable {j : Job} {targets : List Run.Identifier} {seen : Nat} {history : List Exchange}
  {rest : Task Progress.Next} {e : Error} {outcome : Outcome} {x : Exchange}

/-- A comparison may have asked and been answered all of a history, with the rest of a round to
come. Rounds follow one another until one of them finishes. -/
inductive Reaches (j : Job) (targets : List Run.Identifier) (seen : Nat) :
    List Exchange → Task Progress.Next → Prop
  | start : Reaches j targets seen []
      ((Progress.start j.config targets seen).bind fun p => .done (.again p))
  | answered {history : List Exchange} {r : Effect} {next : r.Answer → Task Progress.Next}
      (h : Reaches j targets seen history (Flow.ask r next)) (answer : r.Answer) :
      Reaches j targets seen (history ++ [⟨r, answer⟩]) (next answer)
  | again {history : List Exchange} {p : Progress}
      (h : Reaches j targets seen history (.done (.again p))) :
      Reaches j targets seen history (p.round j)

/-- Before anything was asked nothing has failed and nothing lacks a reason. -/
theorem sound_nil (j : Job) (targets : List Run.Identifier) : Sound j targets [] :=
  ⟨orderly_nil j targets, fun _ hx => absurd hx List.not_mem_nil⟩

/-- What a comparison remembers at its start agrees with what it has asked. -/
theorem start_throughout (j : Job) (targets : List Run.Identifier) (seen : Nat) :
    (Progress.start j.config targets seen).Throughout (Sound j targets)
      (fun p later => p.Faithful j targets later) [] := by
  have hstart : ({ targets := Progress.distinct targets, seen } : Progress).Faithful j targets [] :=
    { sound_nil j targets with
      distinct := rfl
      matched := rfl
      summarized := rfl
      counted := rfl
      notified := rfl
      wanted := rfl }
  unfold Progress.start
  cases j.config.timeout with
  | none => exact hstart
  | some budget =>
    refine ⟨hstart.toSound, fun now => ?_⟩
    have hnow := hstart.quiet (x := ⟨.instant, now⟩) ⟨rfl, rfl, rfl, rfl⟩
    simp only [Flow.bind]
    cases now.after? budget with
    | none => exact ⟨hnow.toSound, fun impossible => impossible.elim⟩
    | some deadline => exact { hnow with }

/-- At every moment of a comparison the rest of the round starts from a sound history. -/
theorem Reaches.throughout (h : Reaches j targets seen history rest) :
    rest.Throughout (Sound j targets) (Settled j targets) history := by
  induction h with
  | start => exact (start_throughout j targets seen).bind fun p later hp => hp
  | answered _ answer ih => exact ih.2 answer
  | again _ ih => exact round_throughout ih

/-- At every moment of a comparison its history is orderly. -/
theorem Reaches.orderly (h : Reaches j targets seen history rest) :
    Orderly j targets history := by
  have hrest := h.throughout
  match rest with
  | Flow.ask r next => exact hrest.1.orderly
  | .done (.again p) => exact hrest.orderly
  | .done (.finished (.error e)) => exact hrest.1
  | .done (.finished (.ok outcome)) =>
    obtain ⟨p, hp, -⟩ := hrest
    exact hp.orderly

/-- Nothing follows a failure, and the comparison ends with it. -/
theorem EndsWith.last {e' : Error} {before after : List Exchange}
    (h : EndsWith j targets e' (before ++ x :: after)) (hx : failure? x = some e) :
    after = [] ∧ e' = e := by
  rcases h.2 with hunfailing | ⟨earlier, y, heq, hunfailing, hy⟩
  · exact absurd hx hunfailing.not_failed
  · rcases List.eq_nil_or_concat after with rfl | ⟨after, z, rfl⟩
    · obtain ⟨-, hxy⟩ := List.append_inj' heq rfl
      obtain rfl := List.singleton_inj.mp hxy
      exact ⟨rfl, Option.some.inj (hy.symm.trans hx)⟩
    · rw [List.concat_eq_append, ← List.cons_append, ← List.append_assoc] at heq
      obtain ⟨rfl, -⟩ := List.append_inj' heq rfl
      exact absurd hx hunfailing.not_failed

/-- A failed request is the last one, and its failure is the result of the comparison. -/
theorem Reaches.failed {before after : List Exchange}
    (h : Reaches j targets seen (before ++ x :: after) rest) (hx : failure? x = some e) :
    after = [] ∧ rest = .done (.finished (.error e)) := by
  have hrest := h.throughout
  match rest with
  | Flow.ask r next => exact absurd hx hrest.1.unfailing.not_failed
  | .done (.again p) => exact absurd hx hrest.unfailing.not_failed
  | .done (.finished (.ok outcome)) =>
    obtain ⟨p, hp, -⟩ := hrest
    exact absurd hx hp.unfailing.not_failed
  | .done (.finished (.error e')) =>
    obtain ⟨hlast, rfl⟩ := EndsWith.last hrest hx
    exact ⟨hlast, rfl⟩

/-- As many distinct targets as there are were measured, so all of them were. -/
theorem Progress.Faithful.complete {p : Progress} (h : p.Faithful j targets history)
    (hcomplete : p.isComplete = true) :
    (∀ t, t ∈ measured history ↔ t ∈ targets) ∧
      (measured history).length = targets.toFinset.card := by
  have hcard : (measured history).toFinset.card = (measured history).length :=
    List.toFinset_card_of_nodup h.orderly.once
  have hsubset : (measured history).toFinset ⊆ targets.toFinset := fun t ht =>
    List.mem_toFinset.mpr (h.orderly.among t (List.mem_toFinset.mp ht))
  have hle : targets.toFinset.card ≤ (measured history).toFinset.card := by
    rw [hcard, ← Progress.length_distinct, ← h.distinct, ← h.matched]
    exact of_decide_eq_true hcomplete
  have heq := Finset.eq_of_subset_of_card_le hsubset hle
  refine ⟨fun t => ?_, by rw [← heq, hcard]⟩
  rw [← List.mem_toFinset, heq, List.mem_toFinset]

/-- Every summary is worth a message if messages are wanted in any case, otherwise those are that
are not empty. -/
theorem countP_reports (j : Job) (found : List (Run.Identifier × String)) :
    found.countP (j.Reports ·.2) =
      if j.notifyAlways then found.length else found.countP (·.2 ≠ "") := by
  cases halways : j.notifyAlways with
  | true => simp [Job.Reports, halways]
  | false => simp [Job.Reports, halways]

/-- A comparison that succeeds has measured every target, has a summary for each of them, and counts
in its outcome what it has found and sent. -/
theorem Reaches.succeeded (h : Reaches j targets seen history rest)
    (hrest : rest = .done (.finished (.ok outcome))) :
    (∀ t, t ∈ measured history ↔ t ∈ targets) ∧
      (summaries history).map (·.1) = measured history ∧
      outcome.matched = targets.toFinset.card ∧
      outcome.notified = (messages history).length ∧
      outcome.notified = if j.notifyAlways then targets.toFinset.card
        else (summaries history).countP (·.2 ≠ "") := by
  subst hrest
  obtain ⟨p, hp, hcomplete, rfl⟩ := h.throughout
  obtain ⟨hmem, hcard⟩ := hp.complete hcomplete
  refine ⟨hmem, hp.summarized, hp.counted.trans hcard, hp.notified, ?_⟩
  rw [hp.notified, hp.wanted, countP_reports, ← hcard, ← hp.summarized, List.length_map]

/-- At every moment of a comparison each target was measured at most once, at most one message was
sent about it, and both only right after a finished run of it was found; after a failure nothing
more is asked. A comparison that succeeds has measured every target and received a summary for it.
It counts the distinct targets and the messages, one for each summary that is not empty, or one for
each target if messages are wanted in any case. -/
theorem one_message_for_each_target (h : Reaches j targets seen history rest) :
    ((measured history).Nodup ∧ ∀ t ∈ measured history, t ∈ targets) ∧
      ((reported history).Nodup ∧ (reported history).length = (messages history).length) ∧
      (∀ before x, before ++ [x] <+: history → Warranted j before x) ∧
      (∀ before x after e, history = before ++ x :: after → failure? x = some e →
        after = [] ∧ rest = .done (.finished (.error e))) ∧
      ∀ outcome, rest = .done (.finished (.ok outcome)) →
        (∀ t, t ∈ measured history ↔ t ∈ targets) ∧
        (summaries history).map (·.1) = measured history ∧
        outcome.matched = targets.toFinset.card ∧
        outcome.notified = (messages history).length ∧
        outcome.notified = if j.notifyAlways then targets.toFinset.card
          else (summaries history).countP (·.2 ≠ "") := by
  have horderly := h.orderly
  refine ⟨⟨horderly.once, horderly.among⟩, ⟨?_, horderly.told⟩, horderly.warranted, ?_, ?_⟩
  · exact horderly.once.sublist (reported_sublist history)
  · rintro before x after e rfl hx
    exact h.failed hx
  · exact fun outcome hrest => h.succeeded hrest

/-- A comparison of a nightly run without an end of its time. -/
def nightlyJob : Job where
  finished := { source := "cron", gitRef := "4be2a1f", benchmarkType := "micro" }
  notifyAlways := false
  config := { timeout := none }

/-- The same work at another commit. -/
def nightlyTarget (gitRef : String) : Run.Identifier := { nightlyJob.finished with gitRef }

/-- What a round asks before its lookups when nobody stops it. -/
def waited : List Exchange :=
  [⟨.signal, {}⟩, ⟨.instant, default⟩, ⟨.wait (Instant.after? default (.ofSeconds 1)) (some 0),
    Wake.elapsed⟩]

/-- Of two targets, one given twice, the first got worse and the other one finished late. -/
def nightlyHistory : List Exchange :=
  waited ++ [found (nightlyTarget "a") default,
    measurement nightlyJob (nightlyTarget "a") (.ok "+12 %"),
    notification nightlyJob (nightlyTarget "a") "+12 %" (.ok ()),
    ⟨.store (.findFinished (.forIdentifier (nightlyTarget "b"))), Except.ok none⟩] ++ waited ++
  [found (nightlyTarget "b") default, measurement nightlyJob (nightlyTarget "b") (.ok "")]

/-- The nightly comparison may ask all of the history above and end with one message about two
targets. -/
theorem nightlyJob_reaches :
    Reaches nightlyJob [nightlyTarget "a", nightlyTarget "b", nightlyTarget "a"] 0 nightlyHistory
      (.done (.finished (.ok ⟨2, 1⟩))) := by
  have hstart : Reaches nightlyJob [nightlyTarget "a", nightlyTarget "b", nightlyTarget "a"] 0 []
      _ := .start
  have hwaited := ((hstart.again.answered (r := .signal) {}).answered
    (r := .instant) default).answered (r := .wait _ _) Wake.elapsed
  have hmeasured := (hwaited.answered (r := .store _) (.ok (some default))).answered
    (r := .measure _ _ _) (.ok "+12 %")
  have hround := (hmeasured.answered (r := .notify _) (.ok ())).answered (r := .store _) (.ok none)
  have hagain := ((hround.again.answered (r := .signal) {}).answered
    (r := .instant) default).answered (r := .wait _ _) Wake.elapsed
  have hfound := (hagain.answered (r := .store _) (.ok (some default))).answered
    (r := .measure _ _ _) (.ok "")
  exact hfound.again

/-- Two targets were counted and one message. -/
theorem one_message_for_each_target_nightly :
    [nightlyTarget "a", nightlyTarget "b", nightlyTarget "a"].toFinset.card = 2 ∧
      (measured nightlyHistory).Nodup ∧ (reported nightlyHistory).Nodup ∧
      (messages nightlyHistory).length = 1 := by
  obtain ⟨⟨hmeasured, -⟩, ⟨hreported, -⟩, -, -, hsucceeded⟩ :=
    one_message_for_each_target nightlyJob_reaches
  obtain ⟨-, -, hmatched, hnotified, -⟩ := hsucceeded _ rfl
  exact ⟨hmatched.symm, hmeasured, hreported, hnotified.symm⟩

end BenchQueue.Comparison
