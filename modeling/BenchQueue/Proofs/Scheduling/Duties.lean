import BenchQueue.Proofs.Scheduling.Service

/-!
# The duties of the dispatch loop

A round of the loop hands out an element and begins its execution, or it is the last one: then the loop
asks for the executions, waits for them and gives them up. The duties say how far it is, and what it
knows about the tasks at each of them.
-/

namespace BenchQueue.Scheduling

/-! ## What a round does -/

/-- How far the loop is with its duties: it dispatches, it has an element whose execution is to begin,
or it is told to stop and there are executions to wait for, in time, or too late, or none. -/
inductive Duty
  | dispatching
  | admitted (e : Element)
  | stopping
  | waiting (start : Instant)
  | overdue
  | emptied

/-- The requests of the loop, in an order in which it does its duties. -/
inductive Handles (config : Config) : (effect : Effect) → Duty → effect.Answer → Duty → Prop
  | wait (limit : Option Instant) (seen : Option Nat) (wake : Wake) :
      Handles config (.wait limit seen) .dispatching wake .dispatching
  | clock (now : Instant) : Handles config .instant .dispatching now .dispatching
  | signal (value : Signal) : Handles config .signal .dispatching value .dispatching
  | dispatch (found : Option Element) :
      Handles config (.dispatch config.maxConcurrentJobs.toNat) .dispatching found
        (found.elim .dispatching .admitted)
  | begin (e : Element) (seen : Nat) :
      Handles config (.beginExecution e seen) (.admitted e) () .dispatching
  | hasExecutions (any : Bool) :
      Handles config .hasExecutions .dispatching any (if any then .stopping else .emptied)
  | date (now : Instant) : Handles config .instant .stopping now (.waiting now)
  | awaitExecutions {limit : Option Instant} {start : Instant} (ended : Bool)
      (hlimit : limit = start.after? config.shutdownGrace) :
      Handles config (.awaitExecutions limit) (.waiting start) ended
        (if ended then .emptied else .overdue)
  | abortExecutions : Handles config .abortExecutions .overdue () .emptied

/-- The duty of the loop after a round. -/
def dutyAfter (next : Option Dispatcher) : Duty :=
  if next.isSome then .dispatching else .emptied

variable {config : Config} {s t : System} {duty : Duty} {asked : List (Flow.Exchange Effects)}

/-- The loop dispatches when it has started. -/
theorem start_achieves (seen : Nat) :
    ((Dispatcher.start seen).bind fun d => .done (some d)).Achieves (Handles config) .dispatching
      fun next duty => duty = dutyAfter next := by
  refine ⟨⟨⟨0⟩, _, .clock _⟩, fun now duty h => ?_⟩
  cases h
  rfl

/-- The loop still dispatches when it has woken. -/
theorem wake_achieves (d : Dispatcher) :
    (d.wake config).Achieves (Handles config) .dispatching fun _ duty => duty = .dispatching := by
  refine ⟨⟨.elapsed, _, .wait _ _ _⟩, fun wake duty h => ?_⟩
  cases h
  cases wake with
  | elapsed =>
    refine ⟨⟨⟨0⟩, _, .clock _⟩, fun now duty h => ?_⟩
    cases h
    rfl
  | news news => cases news <;> rfl

/-- A loop that is told to stop comes to have no executions left. -/
theorem drain_achieves (config : Config) :
    (Dispatcher.drain config).Achieves (Handles config) .dispatching fun _ duty => duty = .emptied := by
  refine ⟨⟨false, _, .hasExecutions _⟩, fun any duty h => ?_⟩
  cases h
  cases any with
  | false => rfl
  | true =>
    refine ⟨⟨⟨0⟩, _, .date _⟩, fun start duty h => ?_⟩
    cases h
    refine ⟨⟨true, _, .awaitExecutions _ rfl⟩, fun ended duty h => ?_⟩
    cases h
    cases ended with
    | true => rfl
    | false =>
      refine ⟨⟨(), _, .abortExecutions⟩, fun _ duty h => ?_⟩
      cases h
      rfl

/-- A round dispatches, or it ends with all duties done. -/
theorem round_achieves (d : Dispatcher) :
    (d.round config).Achieves (Handles config) .dispatching
      fun next duty => duty = dutyAfter next := by
  refine (wake_achieves d).bind ?_
  rintro d duty rfl
  refine ⟨⟨{}, _, .signal _⟩, fun signal duty h => ?_⟩
  cases h
  change Flow.Achieves _ (if signal.value || !signal.isOpen then _ else _) _ _
  split
  · refine (drain_achieves config).bind ?_
    rintro _ duty rfl
    rfl
  · refine ⟨⟨none, _, .dispatch _⟩, fun found duty h => ?_⟩
    cases h
    cases found with
    | none => rfl
    | some e =>
      refine ⟨⟨(), _, .begin _ _⟩, fun _ duty h => ?_⟩
      cases h
      rfl

/-! ## What the loop knows -/

/-- The loop has asked for the end of the executions and heard that the grace period was too short. -/
def GraceOver (config : Config) (asked : List (Flow.Exchange Effects)) : Prop :=
  ∃ start : Instant, [⟨.instant, start⟩,
    ⟨.awaitExecutions (start.after? config.shutdownGrace), false⟩] <:+: asked

/-- What the duty of the loop says about the tasks and about what the loop has asked. -/
def Duty.Fits (config : Config) (s : System) (asked : List (Flow.Exchange Effects)) : Duty → Prop
  | .dispatching | .stopping => s.admitted = 0
  | .admitted e => s.admitted = {e}
  | .waiting start => s.admitted = 0 ∧ [⟨.instant, start⟩] <:+ asked
  | .overdue => s.admitted = 0 ∧ GraceOver config asked
  | .emptied => s.admitted = 0 ∧ s.executions = 0

/-- Whatever the loop asks next, the grace period was too short. -/
theorem GraceOver.append (h : GraceOver config asked) (more : List (Flow.Exchange Effects)) :
    GraceOver config (asked ++ more) := by
  obtain ⟨start, hinfix⟩ := h
  exact ⟨start, hinfix.trans (List.prefix_append asked more).isInfix⟩

/-- Steps of other tasks change nothing about the duty of the loop. -/
theorem Duty.Fits.other (h : duty.Fits config s asked) (hadmitted : t.admitted = s.admitted)
    (hexecutions : s.executions = 0 → t.executions = 0) : duty.Fits config t asked := by
  cases duty with
  | dispatching | stopping | admitted e => exact hadmitted.trans h
  | waiting start | overdue => exact ⟨hadmitted.trans h.1, h.2⟩
  | emptied => exact ⟨hadmitted.trans h.1, hexecutions h.2⟩

/-- An answer that changes nothing leads from one duty to the next. -/
theorem Duty.Fits.observe {effect : Effect} {answer : effect.Answer}
    (hfits : duty.Fits config s asked) (hobserves : Observes effect s answer)
    (hhandled : ∃ answer duty', Handles config effect duty answer duty') :
    ∃ duty', Handles config effect duty answer duty' ∧
      duty'.Fits config s (asked ++ [⟨effect, answer⟩]) := by
  obtain ⟨_, _, hhandles⟩ := hhandled
  cases hhandles with
  | wait limit seen _ => exact ⟨_, .wait limit seen answer, hfits⟩
  | clock _ => exact ⟨_, .clock answer, hfits⟩
  | signal _ => exact ⟨_, .signal answer, hfits⟩
  | dispatch _ | begin _ _ => nomatch hobserves
  | hasExecutions _ =>
    refine ⟨_, .hasExecutions answer, ?_⟩
    cases hobserves with
    | hasExecutions _ hnone =>
      cases answer with
      | true => exact hfits
      | false => exact ⟨hfits, hnone rfl⟩
  | date _ => exact ⟨_, .date answer, hfits, List.suffix_append _ _⟩
  | @awaitExecutions _ start _ hlimit =>
    refine ⟨_, .awaitExecutions answer hlimit, ?_⟩
    cases hobserves with
    | awaitExecutions _ _ hended =>
      cases answer with
      | true => exact ⟨hfits.1, hended.mp rfl⟩
      | false =>
        obtain ⟨hadmitted, before, hasked⟩ := hfits
        refine ⟨hadmitted, start, before, [], ?_⟩
        rw [← hasked, hlimit, List.append_nil, List.append_assoc]
        rfl
  | abortExecutions =>
    refine ⟨_, .abortExecutions, ?_⟩
    cases hobserves with
    | abortExecutions hnone => exact ⟨hfits.1, hnone⟩

end BenchQueue.Scheduling
