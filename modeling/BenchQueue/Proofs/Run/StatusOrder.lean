import BenchQueue.Proofs.Run.Ends
import BenchQueue.Run.Calls
import Mathlib.Data.List.Chain

/-!
# The order of statuses

The calls on a run may be made in any order and as often as wanted. Only an execution changes the
status of the record, and it does so in the same way each time: to started and then to a terminal
status. A run that is executed once therefore keeps the order of statuses. One that is executed
again does not, since an execution does not ask how far the run has come.
-/

namespace BenchQueue.Run

open BenchQueue.Flow (ensures_done ensures_ask ends_bind_iff)
open BenchQueue.Store (Memory)

/-- The order of statuses. -/
inductive Status.Next : Status → Status → Prop
  | start : Next .created .started
  | finish : Next .started .finished
  | fail : Next .started .failed

/-- What the execution of a run may do to its record: nothing if the run is not prepared or the
store refuses, and otherwise a start and an end, unless the store refuses the end. -/
inductive Cycle : List Status → Prop
  | none : Cycle []
  | begun : Cycle [.started]
  | closed {status : Status} (h : Status.Next .started status) : Cycle [.started, status]

/-- The statuses that the record of a run has had, the first one first. The store may accept or
refuse each change. -/
inductive Keeps (id : Uuid) : (effect : Effect) → List Status → effect.Answer → List Status → Prop
  | accepted (status : Status) (at_ : Timestamp) (statuses : List Status) :
      Keeps id (.store (.updateStatus id status at_)) statuses (.ok ()) (statuses ++ [status])
  | refused (status : Status) (at_ : Timestamp) (e : Store.Error) (statuses : List Status) :
      Keeps id (.store (.updateStatus id status at_)) statuses (.error e) statuses
  | other {effect : Effect} (heffect : ∀ status at_, effect ≠ .store (.updateStatus id status at_))
      (answer : effect.Answer) (statuses : List Status) : Keeps id effect statuses answer statuses

/-- The number of executions among some calls. -/
def executions (calls : List OwnerCall) : Nat :=
  calls.countP fun c => match c with
    | .execute _ => true
    | _ => false

/-- Some cycles are added to the statuses of a record. -/
def AddsCycles (n : Nat) (statuses statuses' : List Status) : Prop :=
  ∃ cycles : List (List Status), cycles.length = n ∧ (∀ cycle ∈ cycles, Cycle cycle) ∧
    statuses' = statuses ++ cycles.flatten

variable {s s' : State} {id : Uuid} {statuses statuses' statuses'' : List Status}
  {cycle : List Status} {cycles : List (List Status)} {calls : List OwnerCall}

/-- Only the requests to the store change the statuses that a record has had. -/
theorem keeps_storeOnly (id : Uuid) : StoreOnly (Keeps id) := by
  intro effect statuses answer statuses' heffect hanswer
  cases hanswer with
  | accepted _ _ _ => exact absurd rfl (heffect _)
  | refused _ _ _ _ => exact absurd rfl (heffect _)
  | other _ _ _ => rfl

/-- Without an execution the statuses stay as they are. -/
theorem addsCycles_zero (statuses : List Status) : AddsCycles 0 statuses statuses :=
  ⟨[], rfl, fun _ h => absurd h List.not_mem_nil, (List.append_nil _).symm⟩

/-- One execution adds its cycle. -/
theorem addsCycles_one (statuses : List Status) (h : Cycle cycle) :
    AddsCycles 1 statuses (statuses ++ cycle) := by
  refine ⟨[cycle], rfl, fun c hc => ?_, by rw [List.flatten_singleton]⟩
  obtain rfl := List.mem_singleton.mp hc
  exact h

/-- Executions one after the other add their cycles one after the other. -/
theorem AddsCycles.trans {m n : Nat} (h : AddsCycles m statuses statuses')
    (h' : AddsCycles n statuses' statuses'') : AddsCycles (m + n) statuses statuses'' := by
  obtain ⟨first, rfl, hfirst, rfl⟩ := h
  obtain ⟨later, rfl, hlater, rfl⟩ := h'
  refine ⟨first ++ later, List.length_append, fun cycle hcycle => ?_, ?_⟩
  · rcases List.mem_append.mp hcycle with h | h
    · exact hfirst cycle h
    · exact hlater cycle h
  · rw [List.flatten_append, List.append_assoc]

/-! ## Calls -/

namespace State

/-- A change of the status is recorded or refused. -/
theorem transition_keeps (s : State) (status : Status) (statuses : List Status) :
    (s.transition status).Ensures (Keeps s.id) statuses fun r statuses' =>
      r.2.id = s.id ∧ ((r.1 = .ok () ∧ statuses' = statuses ++ [status]) ∨
        ((∃ e, r.1 = .error e) ∧ statuses' = statuses)) := by
  refine ensures_other (keeps_storeOnly s.id) (fun _ => Effect.noConfusion) fun now => ?_
  refine ensures_ask fun answer statuses' hanswer => ?_
  cases hanswer with
  | accepted _ _ _ => exact ensures_done ⟨rfl, Or.inl ⟨rfl, rfl⟩⟩
  | refused _ _ e _ => exact ensures_done ⟨rfl, Or.inr ⟨⟨_, rfl⟩, rfl⟩⟩
  | other heffect _ _ => exact absurd rfl (heffect _ _)

/-- The end of an execution is recorded or refused. -/
theorem conclude_keeps (s : State) (result : Except Error Unit) (statuses : List Status) :
    (s.conclude result).Ensures (Keeps s.id) statuses fun r statuses' =>
      r.2.id = s.id ∧ (statuses' = statuses ++ [terminalStatus result] ∨ statuses' = statuses) := by
  refine (transition_keeps s (terminalStatus result) statuses).bind fun r statuses' h => ?_
  obtain ⟨recorded, s'⟩ := r
  obtain ⟨hid, hmoved⟩ := h
  have hstatuses : statuses' = statuses ++ [terminalStatus result] ∨ statuses' = statuses := by
    rcases hmoved with ⟨-, rfl⟩ | ⟨-, rfl⟩
    · exact Or.inl rfl
    · exact Or.inr rfl
  cases result with
  | ok _ => exact ensures_done ⟨hid, hstatuses⟩
  | error e =>
    cases recorded with
    | error _ => exact ensures_done ⟨hid, hstatuses⟩
    | ok _ =>
      refine (log_ensures (keeps_storeOnly _) s' _ statuses').bind fun _ _ hlogged => ?_
      obtain rfl := hlogged
      exact ensures_done ⟨hid, hstatuses⟩

/-- The status at the end of an execution is one that may follow the start. -/
theorem next_terminalStatus (result : Except Error Unit) :
    Status.Next .started (terminalStatus result) := by
  cases result with
  | ok _ => exact .finish
  | error _ => exact .fail

/-- However far the run has come, an execution adds one cycle. -/
theorem execute_keeps (s : State) (deadline : Duration) (statuses : List Status) :
    (s.execute deadline).Ensures (Keeps s.id) statuses fun r statuses' =>
      r.2.id = s.id ∧ ∃ cycle, Cycle cycle ∧ statuses' = statuses ++ cycle := by
  have hnothing : ∃ cycle, Cycle cycle ∧ statuses = statuses ++ cycle :=
    ⟨[], .none, (List.append_nil _).symm⟩
  unfold execute
  split
  · exact ensures_done ⟨rfl, hnothing⟩
  · refine (transition_keeps s .started statuses).bind fun r statuses' h => ?_
    obtain ⟨started, s'⟩ := r
    obtain ⟨hid, hmoved⟩ := h
    rcases hmoved with ⟨hok, rfl⟩ | ⟨⟨e, he⟩, rfl⟩
    · obtain rfl : started = .ok () := hok
      refine (log_ensures (keeps_storeOnly _) s' _ _).bind fun _ _ hlogged => ?_
      obtain rfl := hlogged
      refine ensures_other (keeps_storeOnly _) (fun _ => Effect.noConfusion) fun now => ?_
      refine (provisionAndRun_ensures (keeps_storeOnly _) s' deadline _ _).bind fun r _ hran => ?_
      obtain ⟨result, s''⟩ := r
      obtain ⟨rfl, hid'⟩ := hran
      have hsame : s''.id = s.id := hid'.trans hid
      rw [← hsame]
      refine (conclude_keeps s'' result _).mono fun r statuses' h => ?_
      obtain ⟨hlast, rfl | rfl⟩ := h
      · exact ⟨hlast, _, .closed (next_terminalStatus result), List.append_assoc _ _ _⟩
      · exact ⟨hlast, _, .begun, rfl⟩
    · obtain rfl : started = .error e := he
      exact ensures_done ⟨hid, hnothing⟩

/-- Only an execution adds a cycle. -/
theorem call_keeps (s : State) (c : OwnerCall) (statuses : List Status) :
    (s.call c).Ensures (Keeps s.id) statuses fun r statuses' =>
      r.2.id = s.id ∧ AddsCycles (executions [c]) statuses statuses' := by
  cases c with
  | conclude => exact ensures_done ⟨rfl, addsCycles_zero _⟩
  | prepare =>
    refine (prepare_ensures (keeps_storeOnly _) s statuses).mono fun r _ h => ?_
    obtain ⟨rfl, hid, -⟩ := h
    exact ⟨hid, addsCycles_zero _⟩
  | openOutputs =>
    refine (openOutputs_ensures (keeps_storeOnly _) s statuses).mono fun r _ h => ?_
    obtain ⟨rfl, hid, -⟩ := h
    exact ⟨hid, addsCycles_zero _⟩
  | cleanUp =>
    refine (cleanUp_ensures (keeps_storeOnly _) s statuses).bind fun r _ h => ?_
    obtain rfl := h
    exact ensures_done ⟨rfl, addsCycles_zero _⟩
  | execute deadline =>
    refine (execute_keeps s deadline statuses).mono fun r statuses' h => ?_
    obtain ⟨hid, cycle, hcycle, rfl⟩ := h
    exact ⟨hid, addsCycles_one _ hcycle⟩

/-- Any calls add one cycle for each execution among them. -/
theorem callAll_keeps (s : State) (calls : List OwnerCall) (statuses : List Status) :
    (s.callAll calls).Ensures (Keeps s.id) statuses fun _ statuses' =>
      AddsCycles (executions calls) statuses statuses' := by
  induction calls generalizing s statuses with
  | nil => exact ensures_done (addsCycles_zero _)
  | cons c rest ih =>
    refine (call_keeps s c statuses).bind fun r statuses' h => ?_
    obtain ⟨hid, hfirst⟩ := h
    have hrest := ih r.2 statuses'
    rw [hid] at hrest
    refine hrest.mono fun s' statuses'' hlater => ?_
    rw [executions, ← List.singleton_append, List.countP_append]
    exact hfirst.trans hlater

end State

/-! ## The order of statuses -/

/-- In a sequence of cycles a status is left in order, or for another start. -/
theorem isChain_cycles (hcycles : ∀ cycle ∈ cycles, Cycle cycle) (status : Status) :
    (status :: cycles.flatten).IsChain fun a b => Status.Next a b ∨ b = .started := by
  induction cycles generalizing status with
  | nil => exact .singleton status
  | cons cycle rest ih =>
    have hrest := ih fun c hc => hcycles c (List.mem_cons_of_mem cycle hc)
    cases hcycles cycle List.mem_cons_self with
    | none => exact hrest status
    | begun => exact .cons_cons (Or.inr rfl) (hrest .started)
    | closed hnext => exact .cons_cons (Or.inr rfl) (.cons_cons (Or.inl hnext) (hrest _))

/-- One execution starts its record at most once. -/
theorem Cycle.count_started_le (h : Cycle cycle) : cycle.count .started ≤ 1 := by
  cases h with
  | none => decide
  | begun => decide
  | closed hnext => cases hnext <;> decide

/-- Each cycle starts the run at most once. -/
theorem count_started_le (hcycles : ∀ cycle ∈ cycles, Cycle cycle) :
    cycles.flatten.count .started ≤ cycles.length := by
  induction cycles with
  | nil => exact Nat.le_refl 0
  | cons cycle rest ih =>
    have hfirst := (hcycles cycle List.mem_cons_self).count_started_le
    have hrest := ih fun c hc => hcycles c (List.mem_cons_of_mem cycle hc)
    rw [List.flatten_cons, List.count_append, List.length_cons]
    omega

/-- The first execution of a run takes the record through its statuses in order. -/
theorem Cycle.isChain (h : Cycle cycle) :
    (.created :: cycle : List Status).IsChain Status.Next := by
  cases h with
  | none => exact .singleton _
  | begun => exact .cons_cons .start (.singleton _)
  | closed hnext => exact .cons_cons .start (.cons_cons hnext (.singleton _))

/-- Whatever calls are made on a run, whatever the provider does and whether the store accepts or
not, a status is only left in order or for a new start, and there are at most as many starts as
executions. With no more than one execution among the calls all statuses are in order. -/
theorem callAll_status_order
    (hends : (s.callAll calls).Ends (Keeps s.id) [.created] s' statuses) :
    statuses.IsChain (fun a b => Status.Next a b ∨ b = .started) ∧
      statuses.count .started ≤ executions calls ∧
      (executions calls ≤ 1 → statuses.IsChain Status.Next) := by
  obtain ⟨cycles, hlength, hcycles, rfl⟩ := State.callAll_keeps s calls _ s' statuses hends
  refine ⟨isChain_cycles hcycles .created, ?_, fun honce => ?_⟩
  · rw [← hlength, List.singleton_append, List.count_cons_of_ne (by decide)]
    exact count_started_le hcycles
  · rw [← hlength] at honce
    match cycles with
    | [] => exact .singleton _
    | [cycle] =>
      rw [List.flatten_singleton]
      exact (hcycles cycle List.mem_cons_self).isChain
    | _ :: _ :: _ => simp at honce

/-! ## A run that is executed again -/

/-- A request that changes no status may be answered with the statuses as they were. -/
theorem ends_keeping {α : Type} {effect : Effect} {next : effect.Answer → Task α} {a : α}
    (answer : effect.Answer) (heffect : ∀ status at_, effect ≠ .store (.updateStatus id status at_))
    (hnext : (next answer).Ends (Keeps id) statuses a statuses') :
    (Flow.ask effect next : Task α).Ends (Keeps id) statuses a statuses' :=
  .ask (.other heffect answer statuses) hnext

/-- A run of a micro benchmark, as it is created. -/
def microRun : State :=
  defaultRun { source := "cron", gitRef := "4be2a1f", benchmarkType := "micro" } "micro.toml"

/-- The run after it was prepared and executed with success, and executed once more in vain. -/
def microRunAgain : State :=
  let ready := { microRun with
    dirPath := some (Machine.joinNames microRun.config.rootDir microRun.id.text), prepared := true }
  let finished := ((ready.withStatus .started default).withVariables ["10.0.0.1"]).withStatus
    .finished default
  (finished.withStatus .started default).withStatus .failed default

/-- After a run has finished, another execution starts it again and may let it fail. -/
theorem microRun_ends :
    (microRun.callAll [.prepare, .execute defaultDeadline, .execute defaultDeadline]).Ends
      (Keeps microRun.id) [.created] microRunAgain
      [.created, .started, .finished, .started, .failed] := by
  refine ends_keeping (.ok ()) (fun _ _ => Effect.noConfusion) ?_
  refine ends_keeping (.ok ()) (fun _ _ => Effect.noConfusion) ?_
  -- The first execution: both calls on the provider return in time.
  refine ends_keeping (default : Timestamp) (fun _ _ => Effect.noConfusion) ?_
  refine .ask (.accepted .started default _) ?_
  refine ends_keeping (default : Instant) (fun _ _ => Effect.noConfusion) ?_
  refine ends_keeping (.returned (.ok ["10.0.0.1"])) (fun _ _ => Effect.noConfusion) ?_
  refine ends_keeping (.returned (.ok ())) (fun _ _ => Effect.noConfusion) ?_
  refine ends_keeping (default : Timestamp) (fun _ _ => Effect.noConfusion) ?_
  refine .ask (.accepted .finished default _) ?_
  -- The second one: the deadline comes first.
  refine ends_keeping (default : Timestamp) (fun _ _ => Effect.noConfusion) ?_
  refine .ask (.accepted .started default _) ?_
  refine ends_keeping (default : Instant) (fun _ _ => Effect.noConfusion) ?_
  refine ends_keeping .expired (fun _ _ => Effect.noConfusion) ?_
  refine ends_keeping (default : Timestamp) (fun _ _ => Effect.noConfusion) ?_
  refine .ask (.accepted .failed default _) ?_
  exact .done _ _

/-- Two executions start a run twice, and a status is only left in order or for the second start. -/
theorem callAll_status_order_again :
    (microRun.callAll [.prepare, .execute defaultDeadline, .execute defaultDeadline]).Ends
        (Keeps microRun.id) [.created] microRunAgain
        [.created, .started, .finished, .started, .failed] ∧
      [Status.created, .started, .finished, .started, .failed].IsChain
        (fun a b => Status.Next a b ∨ b = .started) ∧
      [Status.created, .started, .finished, .started, .failed].count .started ≤ 2 :=
  ⟨microRun_ends, (callAll_status_order microRun_ends).1, (callAll_status_order microRun_ends).2.1⟩

/-- The statuses of a run are not always in order: a run that had finished may be started again and
fail. -/
theorem terminal_status_left : ∃ (s s' : State) (calls : List OwnerCall) (statuses : List Status),
    (s.callAll calls).Ends (Keeps s.id) [.created] s' statuses ∧
      [Status.finished, .started, .failed] <:+: statuses ∧ ¬ statuses.IsChain Status.Next := by
  refine ⟨_, _, _, _, microRun_ends, ⟨[.created, .started], [], rfl⟩, fun hchain => ?_⟩
  have hrest := hchain.tail.tail
  cases hrest with
  | cons_cons hnext _ => cases hnext

end BenchQueue.Run
