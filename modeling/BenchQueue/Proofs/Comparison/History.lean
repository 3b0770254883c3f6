import BenchQueue.Comparison.Progress
import BenchQueue.Proofs.Flow
import Mathlib.Data.List.Nodup

/-!
# The history of a comparison

What a comparison has asked and been answered tells which targets it has measured, what it has found
out about them, which messages it has sent and whether something has failed. A history is orderly if
no target was measured twice and every measurement and every message had its reason right before it.
-/

namespace BenchQueue.Comparison

/-- A request of a comparison with its answer. -/
abbrev Exchange := Flow.Exchange Effects

/-- A lookup that found a finished run of a target. -/
def found (target : Run.Identifier) (record : Run.Record) : Exchange :=
  ⟨.store (.findFinished (.forIdentifier target)), Except.ok (some record)⟩

/-- A measurement of a target, with what it answered. -/
def measurement (j : Job) (target : Run.Identifier) (answer : Except Measurement.Error String) :
    Exchange :=
  ⟨.measure j.finished.kind j.finished target, answer⟩

/-- A message about a target, with the answer of the one it was sent to. -/
def notification (j : Job) (target : Run.Identifier) (summary : String)
    (answer : Except Notify.Error Unit) : Exchange :=
  ⟨.notify (message j.config.repositoryUrl j.finished target summary), answer⟩

/-- Whether a message is sent about a summary. -/
def Job.Reports (j : Job) (summary : String) : Prop := summary ≠ "" ∨ j.notifyAlways = true

instance (j : Job) (summary : String) : Decidable (j.Reports summary) :=
  inferInstanceAs (Decidable (_ ∨ _))

/-! ## What a history tells -/

/-- The target of a measurement. -/
def target? : Exchange → Option Run.Identifier
  | ⟨.measure _ _ target, _⟩ => some target
  | _ => none

/-- The target and the summary of a measurement that succeeded. -/
def summary? : Exchange → Option (Run.Identifier × String)
  | ⟨.measure _ _ target, .ok summary⟩ => some (target, summary)
  | _ => none

/-- The text of a message. -/
def message? : Exchange → Option String
  | ⟨.notify text, _⟩ => some text
  | _ => none

/-- The failure of the store, of a measurement or of a message. -/
def failure? : Exchange → Option Error
  | ⟨.store _, .error e⟩ => some (.store e)
  | ⟨.measure _ _ _, .error e⟩ => some (.measurement e)
  | ⟨.notify _, .error e⟩ => some (.notify e)
  | _ => none

/-- The targets that were measured. -/
def measured (history : List Exchange) : List Run.Identifier := history.filterMap target?

/-- The summaries that were found, with their targets. -/
def summaries (history : List Exchange) : List (Run.Identifier × String) :=
  history.filterMap summary?

/-- The messages that were sent. -/
def messages (history : List Exchange) : List String := history.filterMap message?

/-- The target of a measurement that is followed by a message. -/
def reported? (x y : Exchange) : Option Run.Identifier :=
  if (message? y).isSome then target? x else none

/-- The targets that messages were sent about: those measured right before a message. -/
def reported : List Exchange → List Run.Identifier
  | x :: y :: rest => (reported? x y).toList ++ reported (y :: rest)
  | _ => []

/-- No request has failed. -/
def Unfailing (history : List Exchange) : Prop := ∀ x ∈ history, failure? x = none

/-- An exchange is a measurement only if its target was found right before, and a message only if it
is about a target that was found and measured right before, with a summary that calls for one. -/
def Warranted (j : Job) (before : List Exchange) (x : Exchange) : Prop :=
  (∀ target, target? x = some target →
    ∃ earlier record answer, before = earlier ++ [found target record] ∧
      x = measurement j target answer) ∧
  ∀ text, message? x = some text →
    ∃ earlier target record summary answer,
      before = earlier ++ [found target record] ++ [measurement j target (.ok summary)] ∧
        x = notification j target summary answer ∧ j.Reports summary

/-- Each target was measured at most once, and everything that was asked had its reason. -/
structure Orderly (j : Job) (targets : List Run.Identifier) (history : List Exchange) : Prop where
  warranted : ∀ before x, before ++ [x] <+: history → Warranted j before x
  once : (measured history).Nodup
  among : ∀ t ∈ measured history, t ∈ targets
  told : (reported history).length = (messages history).length

variable {j : Job} {targets : List Run.Identifier} {history : List Exchange} {x y : Exchange}
  {t : Run.Identifier}

/-! ## One more exchange -/

/-- One more exchange adds the target that it measures, if it measures one. -/
theorem measured_concat (history : List Exchange) (x : Exchange) :
    measured (history ++ [x]) = measured history ++ (target? x).toList :=
  Flow.filterMap_concat _ _ _

/-- One more exchange adds the summary that it has found, if it has found one. -/
theorem summaries_concat (history : List Exchange) (x : Exchange) :
    summaries (history ++ [x]) = summaries history ++ (summary? x).toList :=
  Flow.filterMap_concat _ _ _

/-- One more exchange adds the message that it sends, if it sends one. -/
theorem messages_concat (history : List Exchange) (x : Exchange) :
    messages (history ++ [x]) = messages history ++ (message? x).toList :=
  Flow.filterMap_concat _ _ _

/-- One more exchange is reported about the target of the one before it, if it is a message. -/
theorem reported_concat (history : List Exchange) (x y : Exchange) :
    reported (history ++ [x] ++ [y]) = reported (history ++ [x]) ++ (reported? x y).toList := by
  induction history with
  | nil => simp [reported]
  | cons z rest ih =>
    cases rest with
    | nil => simp [reported]
    | cons z' rest =>
      simp only [List.cons_append, reported, List.append_assoc, List.append_cancel_left_eq] at ih ⊢
      exact ih

/-- An exchange that is no message reports about nothing. -/
theorem reported_concat_of_silent (history : List Exchange) (hx : message? x = none) :
    reported (history ++ [x]) = reported history := by
  rcases List.eq_nil_or_concat history with rfl | ⟨earlier, y, rfl⟩
  · rfl
  · rw [List.concat_eq_append, reported_concat]
    simp [reported?, hx]

/-- Messages are about targets that were measured, each in its turn. -/
theorem reported_sublist (history : List Exchange) :
    (reported history).Sublist (measured history) := by
  induction history with
  | nil => exact List.Sublist.refl _
  | cons x rest ih =>
    have hmeasured : measured (x :: rest) = (target? x).toList ++ measured rest := by
      cases hx : target? x <;> simp [measured, hx]
    rw [hmeasured]
    cases rest with
    | nil => exact List.nil_sublist _
    | cons y rest =>
      refine List.Sublist.append ?_ ih
      unfold reported?
      split
      · exact List.Sublist.refl _
      · exact List.nil_sublist _

/-- No request has failed if none has before the last one and that has not failed either. -/
theorem Unfailing.concat (h : Unfailing history) (hx : failure? x = none) :
    Unfailing (history ++ [x]) := by
  intro y hy
  rcases List.mem_append.mp hy with hy | hy
  · exact h y hy
  · obtain rfl := List.mem_singleton.mp hy
    exact hx

/-- No exchange of a history without failures is one. -/
theorem Unfailing.not_failed {before after : List Exchange} {e : Error}
    (h : Unfailing (before ++ x :: after)) : failure? x ≠ some e := by
  rw [h x (List.mem_append_right _ List.mem_cons_self)]
  exact nofun

/-- A history is orderly before anything was asked. -/
theorem orderly_nil (j : Job) (targets : List Run.Identifier) : Orderly j targets [] := by
  constructor
  · intro before x hprefix
    simp at hprefix
  · exact List.nodup_nil
  · exact fun t ht => absurd ht List.not_mem_nil
  · rfl

/-- A history stays orderly if the next exchange has its reason and measures no target again. -/
theorem Orderly.concat (h : Orderly j targets history) (hx : Warranted j history x)
    (hnew : ∀ t, target? x = some t → t ∈ targets ∧ t ∉ measured history) :
    Orderly j targets (history ++ [x]) := by
  constructor
  · intro before y hprefix
    rcases List.prefix_concat_iff.mp hprefix with heq | hearlier
    · obtain ⟨rfl, hyx⟩ := List.append_inj' heq rfl
      obtain rfl := List.singleton_inj.mp hyx
      exact hx
    · exact h.warranted before y hearlier
  · rw [measured_concat]
    cases ht : target? x with
    | none => simpa using h.once
    | some t =>
      rw [Option.toList_some, ← List.concat_eq_append, List.nodup_concat]
      exact ⟨(hnew t ht).2, h.once⟩
  · rw [measured_concat]
    intro t ht
    rcases List.mem_append.mp ht with ht | ht
    · exact h.among t ht
    · exact (hnew t (Option.mem_toList.mp ht)).1
  · rw [messages_concat]
    cases hmessage : message? x with
    | none => simpa [reported_concat_of_silent history hmessage] using h.told
    | some text =>
      obtain ⟨earlier, target, record, summary, answer, rfl, -, -⟩ := hx.2 text hmessage
      rw [reported_concat, List.length_append, h.told, List.length_append]
      simp [reported?, hmessage, target?, measurement]

/-- An exchange that is neither a measurement nor a message needs no reason. -/
theorem Orderly.concat_quiet (h : Orderly j targets history) (htarget : target? x = none)
    (hmessage : message? x = none) : Orderly j targets (history ++ [x]) :=
  h.concat ⟨fun t ht => (by rw [htarget] at ht; cases ht),
    fun text htext => (by rw [hmessage] at htext; cases htext)⟩
    fun t ht => (by rw [htarget] at ht; cases ht)

end BenchQueue.Comparison
