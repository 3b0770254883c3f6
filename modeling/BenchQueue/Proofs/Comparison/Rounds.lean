import BenchQueue.Proofs.Comparison.History
import Mathlib.Data.Finset.Card

/-!
# The rounds of a comparison

Between two rounds, and between two targets of a round, what a comparison remembers agrees with its
history: the matched targets are the measured ones, and the counters count measurements and
messages. A round keeps this up until it ends the comparison.
-/

namespace BenchQueue.Comparison

/-! ## Distinct targets -/

namespace Progress

/-- Targets are kept once, after those that were kept before. -/
theorem distinct_from (kept targets : List Run.Identifier) (hkept : kept.Nodup) :
    (targets.foldl (fun kept t => if t ∈ kept then kept else kept ++ [t]) kept).Nodup ∧
      ∀ t, t ∈ targets.foldl (fun kept t => if t ∈ kept then kept else kept ++ [t]) kept ↔
        t ∈ kept ∨ t ∈ targets := by
  induction targets generalizing kept with
  | nil => exact ⟨hkept, fun t => by simp⟩
  | cons target rest ih =>
    rw [List.foldl_cons]
    split
    case isTrue hmem =>
      refine ⟨(ih kept hkept).1, fun t => ?_⟩
      rw [(ih kept hkept).2 t, List.mem_cons]
      constructor
      · rintro (ht | ht)
        · exact Or.inl ht
        · exact Or.inr (Or.inr ht)
      · rintro (ht | rfl | ht)
        · exact Or.inl ht
        · exact Or.inl hmem
        · exact Or.inr ht
    case isFalse hnew =>
      have hnodup : (kept ++ [target]).Nodup := by
        rw [← List.concat_eq_append, List.nodup_concat]
        exact ⟨hnew, hkept⟩
      refine ⟨(ih _ hnodup).1, fun t => ?_⟩
      rw [(ih _ hnodup).2 t, List.mem_append, List.mem_singleton, List.mem_cons, or_assoc]

/-- No target is kept twice. -/
theorem nodup_distinct (targets : List Run.Identifier) : (distinct targets).Nodup :=
  (distinct_from [] targets List.nodup_nil).1

/-- Exactly the given targets are kept. -/
theorem mem_distinct {targets : List Run.Identifier} {t : Run.Identifier} :
    t ∈ distinct targets ↔ t ∈ targets := by
  rw [distinct, (distinct_from [] targets List.nodup_nil).2 t]
  simp

/-- As many targets are kept as distinct ones are given. -/
theorem length_distinct (targets : List Run.Identifier) :
    (distinct targets).length = targets.toFinset.card := by
  rw [← List.toFinset_card_of_nodup (nodup_distinct targets)]
  congr 1
  ext t
  rw [List.mem_toFinset, List.mem_toFinset, mem_distinct]

end Progress

/-! ## Agreement with the history -/

/-- A history in which nothing has failed and everything had its reason. -/
structure Sound (j : Job) (targets : List Run.Identifier) (history : List Exchange) : Prop where
  orderly : Orderly j targets history
  unfailing : Unfailing history

/-- What a comparison remembers agrees with its history, and nothing is left to be done about the
targets that were measured. -/
structure Progress.Faithful (j : Job) (targets : List Run.Identifier) (history : List Exchange)
    (p : Progress) : Prop extends Sound j targets history where
  distinct : p.targets = Progress.distinct targets
  matched : p.matched = measured history
  summarized : (summaries history).map (·.1) = measured history
  counted : p.outcome.matched = (measured history).length
  notified : p.outcome.notified = (messages history).length
  wanted : (messages history).length = (summaries history).countP (j.Reports ·.2)

/-- A failure was the last that happened, or what failed was not a request. -/
def EndsWith (j : Job) (targets : List Run.Identifier) (e : Error) (history : List Exchange) :
    Prop :=
  Orderly j targets history ∧
    (Unfailing history ∨
      ∃ before x, history = before ++ [x] ∧ Unfailing before ∧ failure? x = some e)

/-- The result of a part of a round agrees with the history. -/
def Told (j : Job) (targets : List Run.Identifier) :
    Except Error Progress → List Exchange → Prop
  | .ok p, history => p.Faithful j targets history
  | .error e, history => EndsWith j targets e history

/-- An exchange that is neither a measurement nor a message, and did not fail. -/
structure Quiet (x : Exchange) : Prop where
  target : target? x = none
  summary : summary? x = none
  message : message? x = none
  failure : failure? x = none

variable {j : Job} {targets : List Run.Identifier} {history : List Exchange} {x : Exchange}
  {p : Progress} {target : Run.Identifier} {summary : String}

/-- A comparison may also end because it was cancelled or its time is over. -/
theorem Sound.endsWith (h : Sound j targets history) (e : Error) : EndsWith j targets e history :=
  ⟨h.orderly, Or.inl h.unfailing⟩

/-- What a comparison remembers still agrees with its history after a quiet exchange. -/
theorem Progress.Faithful.quiet (h : p.Faithful j targets history) (hx : Quiet x) :
    p.Faithful j targets (history ++ [x]) := by
  have hmeasured : measured (history ++ [x]) = measured history := by
    rw [measured_concat, hx.target, Option.toList_none, List.append_nil]
  have hsummaries : summaries (history ++ [x]) = summaries history := by
    rw [summaries_concat, hx.summary, Option.toList_none, List.append_nil]
  have hmessages : messages (history ++ [x]) = messages history := by
    rw [messages_concat, hx.message, Option.toList_none, List.append_nil]
  exact {
    orderly := h.orderly.concat_quiet hx.target hx.message
    unfailing := h.unfailing.concat hx.failure
    distinct := h.distinct
    matched := by rw [hmeasured, h.matched]
    summarized := by rw [hmeasured, hsummaries, h.summarized]
    counted := by rw [hmeasured, h.counted]
    notified := by rw [hmessages, h.notified]
    wanted := by rw [hmessages, hsummaries, h.wanted] }

/-- What the comparison has heard of the stop signal is not in its history. -/
theorem Progress.Faithful.listening (h : p.Faithful j targets history) (isListening : Bool)
    (seen : Nat) : ({ p with isListening, seen } : Progress).Faithful j targets history :=
  { h with }

/-! ## One target -/

/-- What is known after the last target was measured and found to be worth a message or not. -/
structure Reported (j : Job) (targets : List Run.Identifier) (history : List Exchange)
    (summary : String) (sent : Nat) (later : List Exchange) : Prop extends
    Sound j targets later where
  measured : measured later = measured history
  summaries : summaries later = summaries history
  messages : (messages later).length = (messages history).length + sent
  sent : sent = if j.Reports summary then 1 else 0

/-- A message is sent if it is wanted, and once. -/
theorem report_throughout {before : List Exchange} {record : Run.Record}
    (hbefore : before = history ++ [found target record] ++ [measurement j target (.ok summary)])
    (h : Sound j targets before) :
    (Progress.report j target summary).Throughout (Sound j targets)
      (fun r later => match r with
        | .ok sent => Reported j targets before summary sent later
        | .error e => EndsWith j targets (.notify e) later)
      before := by
  unfold Progress.report
  split
  case isFalse hquiet =>
    exact { h with
      measured := rfl
      summaries := rfl
      messages := rfl
      sent := (if_neg hquiet).symm }
  case isTrue hwanted =>
    refine ⟨h, fun answer => ?_⟩
    have horderly : Orderly j targets (before ++ [notification j target summary answer]) := by
      refine h.orderly.concat ⟨fun _ ht => (nomatch ht), fun text _ => ?_⟩ fun _ ht => nomatch ht
      exact ⟨history, target, record, summary, answer, hbefore, rfl, hwanted⟩
    cases answer with
    | error e => exact ⟨horderly, Or.inr ⟨_, _, rfl, h.unfailing, rfl⟩⟩
    | ok _ =>
      exact {
        orderly := horderly
        unfailing := h.unfailing.concat rfl
        measured := by rw [measured_concat]; exact List.append_nil _
        summaries := by rw [summaries_concat]; exact List.append_nil _
        messages := by rw [messages_concat]; exact List.length_append
        sent := (if_pos hwanted).symm }

/-- A target that was found is measured and reported, and counted. -/
theorem lookUp_throughout (h : p.Faithful j targets history) (hmem : target ∈ targets)
    (hnew : target ∉ p.matched) :
    (p.lookUp j target).Throughout (Sound j targets) (Told j targets) history := by
  refine ⟨h.toSound, fun answer => ?_⟩
  cases answer with
  | error e => exact ⟨h.orderly.concat_quiet rfl rfl, Or.inr ⟨_, _, rfl, h.unfailing, rfl⟩⟩
  | ok answer =>
    cases answer with
    | none => exact h.quiet ⟨rfl, rfl, rfl, rfl⟩
    | some record =>
      have hfound := h.quiet (x := found target record) ⟨rfl, rfl, rfl, rfl⟩
      refine ⟨hfound.toSound, fun answer => ?_⟩
      -- The measurement follows the find that warrants it, and its target was not measured before.
      have horderly : Orderly j targets (history ++ [found target record] ++
          [measurement j target answer]) := by
        refine hfound.orderly.concat ⟨fun t ht => ?_, fun _ htext => nomatch htext⟩
          fun t ht => ?_
        · obtain rfl := Option.some.inj ht
          exact ⟨history, record, answer, rfl, rfl⟩
        · obtain rfl := Option.some.inj ht
          exact ⟨hmem, fun hagain => hnew (hfound.matched ▸ hagain)⟩
      cases answer with
      | error e => exact ⟨horderly, Or.inr ⟨_, _, rfl, hfound.unfailing, rfl⟩⟩
      | ok summary =>
        refine (report_throughout rfl ⟨horderly, hfound.unfailing.concat rfl⟩).bind
          fun r later hr => ?_
        cases r with
        | error e => exact hr
        | ok sent =>
          have hmeasured : measured later = measured history ++ [target] := by
            rw [hr.measured, measured_concat, measured_concat]
            exact congrArg (· ++ [target]) (List.append_nil _)
          have hsummaries : summaries later = summaries history ++ [(target, summary)] := by
            rw [hr.summaries, summaries_concat, summaries_concat]
            exact congrArg (· ++ [(target, summary)]) (List.append_nil _)
          have hmessages : (messages later).length = (messages history).length + sent := by
            rw [hr.messages, messages_concat, messages_concat]
            simp [message?, found, measurement]
          exact {
            hr with
            distinct := h.distinct
            matched := by rw [hmeasured, ← h.matched]
            summarized := by rw [hmeasured, hsummaries, List.map_append, h.summarized]; rfl
            counted := by rw [hmeasured, List.length_append, ← h.counted]; rfl
            notified := by rw [hmessages, ← h.notified]
            wanted := by
              rw [hmessages, hsummaries, List.countP_append, ← h.wanted, hr.sent]
              simp [List.countP_cons] }

/-! ## One round -/

/-- While targets are looked up nothing happens without a reason, and what is remembered afterwards
agrees with the history. -/
theorem lookUpAll_throughout {rest : List Run.Identifier} (h : p.Faithful j targets history)
    (hrest : ∀ t ∈ rest, t ∈ targets) :
    (p.lookUpAll j rest).Throughout (Sound j targets) (Told j targets) history := by
  induction rest generalizing p history with
  | nil => exact h
  | cons target rest ih =>
    have hlater := fun t ht => hrest t (List.mem_cons_of_mem target ht)
    unfold Progress.lookUpAll
    split
    case isTrue => exact ih h hlater
    case isFalse hnew =>
      refine (lookUp_throughout h (hrest target List.mem_cons_self) hnew).bind fun r later hr => ?_
      cases r with
      | error e => exact hr
      | ok p => exact ih hr hlater

/-- The check of the time keeps the agreement of what is remembered with the history. -/
theorem checkDeadline_throughout (h : p.Faithful j targets history) :
    p.checkDeadline.Throughout (Sound j targets) (Told j targets) history := by
  unfold Progress.checkDeadline
  cases p.deadline with
  | none => exact h
  | some d =>
    obtain ⟨deadline, budget⟩ := d
    refine ⟨h.toSound, fun now => ?_⟩
    have hnow := h.quiet (x := ⟨.instant, now⟩) ⟨rfl, rfl, rfl, rfl⟩
    simp only [pure, Flow.bind]
    split
    case isTrue => exact hnow.endsWith _
    case isFalse => exact hnow

/-- A wait changes nothing but what was heard of the stop signal. -/
theorem wake_throughout (c : Config) (h : p.Faithful j targets history) :
    (p.wake c).Throughout (Sound j targets)
      (fun woken later => match woken with
        | .lookUp p | .again p => p.Faithful j targets later
        | .cancelled => Sound j targets later)
      history := by
  refine ⟨h.toSound, fun now => ?_⟩
  have hnow := h.quiet (x := ⟨.instant, now⟩) ⟨rfl, rfl, rfl, rfl⟩
  refine ⟨hnow.toSound, fun woken => ?_⟩
  have hwoken := hnow.quiet (x := ⟨.wait _ _, woken⟩) ⟨rfl, rfl, rfl, rfl⟩
  match woken with
  | .elapsed | .news .nothing => exact hwoken
  | .news .closed => exact hwoken.listening false _
  | .news (.changed seen) =>
    refine ⟨hwoken.toSound, fun signal => ?_⟩
    have hsignal := hwoken.quiet (x := ⟨.signal, signal⟩) ⟨rfl, rfl, rfl, rfl⟩
    simp only [pure, Flow.bind]
    split
    case isTrue => exact hsignal.toSound
    case isFalse => exact hsignal.listening _ seen

/-- What a round ends in agrees with the history, and a comparison that succeeds is complete. -/
def Settled (j : Job) (targets : List Run.Identifier) : Progress.Next → List Exchange → Prop
  | .again p, history => p.Faithful j targets history
  | .finished (.ok outcome), history =>
    ∃ p : Progress, p.Faithful j targets history ∧ p.isComplete = true ∧ outcome = p.outcome
  | .finished (.error e), history => EndsWith j targets e history

/-- During a round nothing happens without a reason, and what it ends in agrees with the history. -/
theorem round_throughout (h : p.Faithful j targets history) :
    (p.round j).Throughout (Sound j targets) (Settled j targets) history := by
  unfold Progress.round
  split
  case isTrue hcomplete => exact ⟨p, h, hcomplete, rfl⟩
  case isFalse =>
    refine ⟨h.toSound, fun signal => ?_⟩
    have hsignal := h.quiet (x := ⟨.signal, signal⟩) ⟨rfl, rfl, rfl, rfl⟩
    simp only [bind, pure, Flow.bind]
    split
    case isTrue => exact hsignal.endsWith _
    case isFalse =>
      refine (wake_throughout j.config hsignal).bind fun woken later hwoken => ?_
      cases woken with
      | cancelled => exact hwoken.endsWith _
      | again p => exact hwoken
      | lookUp p =>
        have hall : ∀ t ∈ p.targets, t ∈ targets := fun t ht =>
          Progress.mem_distinct.mp (hwoken.distinct ▸ ht)
        refine (lookUpAll_throughout hwoken hall).bind fun r later hr => ?_
        cases r with
        | error e => exact hr
        | ok p =>
          refine (checkDeadline_throughout hr).bind fun r later hr => ?_
          cases r with
          | error e => exact hr
          | ok p => exact hr

end BenchQueue.Comparison
