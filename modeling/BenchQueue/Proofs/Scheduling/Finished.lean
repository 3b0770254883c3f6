import BenchQueue.Proofs.Scheduling.Ownership
import BenchQueue.Proofs.Scheduling.Reading
import BenchQueue.Proofs.Scheduling.Resubmission
import BenchQueue.Proofs.Scheduling.Slots
import Mathlib.Logic.Relation

/-!
# Finished work stays finished

The runs of the attempts in progress own different records, and only they write. So no step changes a
finished record, an attempt that has succeeded has left one, and from then on its identifier is refused
by every submission whose lookup and whose queueing happen at once.
-/

namespace BenchQueue.Scheduling

open BenchQueue.Run (Filter Stage Writes)
open BenchQueue.Store (Memory)
open BenchQueue.Store.Memory (KeepsFinished)

/-! ## Attempts and their records -/

/-- An attempt in progress with what is left of its run and the stage of its record. -/
structure Tracked where
  attempt : Attempt
  rest : Task (Except Run.Error Unit)
  stage : Stage

/-- The rest of the run keeps to the stage, and the stage fits the records. -/
structure Tracked.Sound (m : Memory) (x : Tracked) : Prop where
  achieves : x.rest.Achieves (Writes x.attempt.identifier) x.stage fun result stage =>
    result = .ok () → stage = .finished
  fits : Fits x.attempt.identifier m x.stage

/-- The attempts in progress are tracked, and no two of their runs own the same record. -/
structure Deployment.Tracks (d : Deployment) (tracked : Multiset Tracked) : Prop where
  attempts : tracked.map (·.attempt) = d.system.attempts
  runs : tracked.map (fun x => (x.attempt.number, x.rest)) = d.runs
  sound : ∀ x ∈ tracked, x.Sound d.memory
  owners : (tracked.bind fun x => owned x.stage).Nodup

variable {config : Config} {compares : Bool} {deadline : Duration} {events : List Event}
  {d d' : Deployment} {tracked : Multiset Tracked} {x : Tracked}

/-- An attempt that begins is in progress afterwards. -/
theorem Step.attempts_of_began {s t : System} {a : Attempt}
    (hstep : Step config compares s (.attemptBegan a) t) : t.attempts = a ::ₘ s.attempts := by
  cases hstep with
  | beginAttempt _ => rfl

/-- An attempt that ends was in progress before. -/
theorem Step.attempts_of_ended {s t : System} {a : Attempt} {ending : AttemptEnd}
    (hstep : Step config compares s (.attemptEnded a ending) t) : s.attempts = a ::ₘ t.attempts := by
  cases hstep with
  | endAttempt _ hattempts => exact hattempts

/-- What one run owns, no other one does. -/
theorem nodup_owners_cons {rest : Multiset Tracked} :
    ((x ::ₘ rest).bind fun x => owned x.stage).Nodup ↔
      (rest.bind fun x => owned x.stage).Nodup ∧
        ∀ y ∈ rest, ∀ id ∈ owned x.stage, id ∉ owned y.stage := by
  rw [Multiset.cons_bind, Multiset.nodup_add]
  constructor
  · rintro ⟨-, hrest, hapart⟩
    refine ⟨hrest, fun y hy id hx hid => ?_⟩
    exact Multiset.disjoint_left.mp hapart hx (Multiset.mem_bind.mpr ⟨y, hy, hid⟩)
  · rintro ⟨hrest, hapart⟩
    refine ⟨nodup_owned x.stage, hrest, Multiset.disjoint_left.mpr fun hx hmem => ?_⟩
    obtain ⟨y, hy, hid⟩ := Multiset.mem_bind.mp hmem
    exact hapart y hy _ hx hid

/-- Nothing is to be tracked before the first step. -/
theorem tracks_start : ({} : Deployment).Tracks 0 :=
  { attempts := rfl
    runs := rfl
    sound := fun _ hmem => absurd hmem (Multiset.notMem_zero _)
    owners := Multiset.nodup_zero }

/-- A run that has succeeded has left a finished record. -/
theorem Tracked.Sound.finishedFor (h : x.Sound d.memory) (hdone : x.rest = .done (.ok ())) :
    FinishedFor x.attempt.identifier d.memory := by
  have hachieves := h.achieves
  rw [hdone] at hachieves
  have hfits := h.fits
  rwa [hachieves rfl] at hfits

namespace Deployment.Tracks

/-- What is left of a run is tracked. -/
theorem exists_cons {number : Nat} {run : Task (Except Run.Error Unit)}
    {others : Multiset (Nat × Task (Except Run.Error Unit))} (h : d.Tracks tracked)
    (hrun : d.runs = (number, run) ::ₘ others) :
    ∃ x rest, tracked = x ::ₘ rest ∧ x.attempt.number = number ∧ x.rest = run ∧
      rest.map (fun x => (x.attempt.number, x.rest)) = others := by
  have hmem : (number, run) ∈ tracked.map fun x => (x.attempt.number, x.rest) := by
    rw [h.runs, hrun]
    exact Multiset.mem_cons_self _ _
  obtain ⟨x, hx, heq⟩ := Multiset.mem_map.mp hmem
  obtain ⟨rest, rfl⟩ := Multiset.exists_cons_of_mem hx
  have hruns := h.runs
  rw [Multiset.map_cons, heq, hrun] at hruns
  obtain ⟨rfl, rfl⟩ := Prod.mk.inj heq
  exact ⟨x, rest, rfl, rfl, rfl, (Multiset.cons_inj_right _).mp hruns⟩

/-- The number of an attempt tells which of the tracked ones it is. -/
theorem attempt_eq (h : d.Tracks tracked) (hnumbers : (d.system.attempts.map (·.number)).Nodup)
    (hx : x ∈ tracked) {a : Attempt} (ha : a ∈ d.system.attempts)
    (hnumber : x.attempt.number = a.number) : x.attempt = a := by
  have hmem : x.attempt ∈ d.system.attempts := by
    rw [← h.attempts]
    exact Multiset.mem_map_of_mem _ hx
  exact Multiset.inj_on_of_nodup_map hnumbers _ hmem _ ha hnumber

/-- The run of a new attempt has no record yet. -/
theorem begin {a : Attempt} {run : Task (Except Run.Error Unit)} {system : System}
    (h : d.Tracks tracked) (hattempts : system.attempts = a ::ₘ d.system.attempts)
    (hrun : run.Achieves (Writes a.identifier) .unrecorded fun result stage =>
      result = .ok () → stage = .finished) :
    Deployment.Tracks { d with system, runs := (a.number, run) ::ₘ d.runs }
      (⟨a, run, .unrecorded⟩ ::ₘ tracked) := by
  constructor
  · rw [Multiset.map_cons, h.attempts]
    exact hattempts.symm
  · rw [Multiset.map_cons, h.runs]
  · exact Multiset.forall_mem_cons.mpr ⟨⟨hrun, trivial⟩, h.sound⟩
  · exact nodup_owners_cons.mpr ⟨h.owners, fun _ _ _ hid => absurd hid (Multiset.notMem_zero _)⟩

/-- A run goes on: its record moves with it, the other runs do not notice, and no finished record is
lost. -/
theorem work {number : Nat} {effect : Effect} {next : effect.Answer → Task (Except Run.Error Unit)}
    {answer : effect.Answer} {m : Memory} {others : Multiset (Nat × Task (Except Run.Error Unit))}
    (h : d.Tracks tracked) (hrun : d.runs = (number, Flow.ask effect next) ::ₘ others)
    (hreplies : Replies effect d.memory answer m) :
    KeepsFinished d.memory m ∧ ∃ tracked',
      Deployment.Tracks { d with memory := m, runs := (number, next answer) ::ₘ others } tracked' := by
  obtain ⟨⟨a, _, stage⟩, rest, rfl, rfl, rfl, hrest⟩ := h.exists_cons hrun
  have hsound := h.sound _ (Multiset.mem_cons_self _ _)
  have hachieves := hsound.achieves
  obtain ⟨stage', hadvances⟩ := exists_advances hsound.fits hreplies hachieves.1
  obtain ⟨howners, hapart⟩ := nodup_owners_cons.mp h.owners
  have hothers : ∀ y ∈ rest,
      Fits y.attempt.identifier m y.stage ∧ ∀ id ∈ owned stage', id ∉ owned y.stage :=
    fun y hy => hadvances.others (h.sound y (Multiset.mem_cons_of_mem hy)).fits (hapart y hy)
  refine ⟨hadvances.keeps, ⟨a, next answer, stage'⟩ ::ₘ rest, ?_, ?_, ?_, ?_⟩
  · rw [← h.attempts, Multiset.map_cons, Multiset.map_cons]
  · rw [Multiset.map_cons, hrest]
  · have hmine := hachieves.2 _ _ hadvances.writes
    refine Multiset.forall_mem_cons.mpr ⟨⟨hmine, hadvances.fits⟩, fun y hy => ?_⟩
    exact ⟨(h.sound y (Multiset.mem_cons_of_mem hy)).achieves, (hothers y hy).1⟩
  · exact nodup_owners_cons.mpr ⟨howners, fun y hy => (hothers y hy).2⟩

/-- The run of an attempt that ends is no longer tracked. -/
theorem leave {a : Attempt} {run : Task (Except Run.Error Unit)} {system : System}
    {others : Multiset (Nat × Task (Except Run.Error Unit))} (h : d.Tracks tracked)
    (hnumbers : (d.system.attempts.map (·.number)).Nodup)
    (hrun : d.runs = (a.number, run) ::ₘ others)
    (hattempts : d.system.attempts = a ::ₘ system.attempts) :
    (run = .done (.ok ()) → FinishedFor a.identifier d.memory) ∧ ∃ tracked',
      Deployment.Tracks { d with system, runs := others } tracked' := by
  obtain ⟨x, rest, rfl, hnumber, rfl, hrest⟩ := h.exists_cons hrun
  have hx : x ∈ x ::ₘ rest := Multiset.mem_cons_self _ _
  have ha : a ∈ d.system.attempts := hattempts ▸ Multiset.mem_cons_self _ _
  obtain rfl := h.attempt_eq hnumbers hx ha hnumber
  refine ⟨(h.sound x hx).finishedFor, rest, ?_, hrest, ?_, ?_⟩
  · have hall := h.attempts
    rw [Multiset.map_cons, hattempts] at hall
    exact (Multiset.cons_inj_right _).mp hall
  · exact fun y hy => h.sound y (Multiset.mem_cons_of_mem hy)
  · exact (nodup_owners_cons.mp h.owners).1

/-- A step keeps the finished records and the track of the attempts, and an attempt that it ends with
success has left a finished record. -/
theorem step {event : Option Event} (h : d.Tracks tracked) (hasks : d.system.Asks LeavesRecords)
    (hnumbers : (d.system.attempts.map (·.number)).Nodup)
    (hstep : Deployment.Step config compares deadline d event d') :
    KeepsFinished d.memory d'.memory ∧ (∃ tracked', d'.Tracks tracked') ∧
      ∀ a, event = some (.attemptEnded a (.returned (.ok ()))) →
        FinishedFor a.identifier d'.memory := by
  cases hstep with
  | schedule hstep hreplied =>
    -- The tasks of the queue only read the records.
    obtain ⟨rfl, hattempts⟩ := hstep.leavesRecords hasks hreplied
    refine ⟨Memory.keepsFinished_refl _, ⟨tracked, ⟨?_, h.runs, h.sound, h.owners⟩⟩, ?_⟩
    · exact h.attempts.trans hattempts.symm
    · rintro a heq
      obtain rfl := Option.some.inj heq
      exact hreplied.elim
  | @beginAttempt a _ hstep =>
    have hrun := Run.executeFile_achieves_stage deadline a.identifier a.configPath
    have htracks := h.begin hstep.attempts_of_began hrun
    exact ⟨Memory.keepsFinished_refl _, ⟨_, htracks⟩, fun a heq => by cases heq⟩
  | work hrun hreplies =>
    obtain ⟨hkeeps, htracks⟩ := h.work hrun hreplies
    exact ⟨hkeeps, htracks, fun a heq => by cases heq⟩
  | endAttempt hrun hstep =>
    obtain ⟨hfinished, htracks⟩ := h.leave hnumbers hrun hstep.attempts_of_ended
    refine ⟨Memory.keepsFinished_refl _, htracks, fun a heq => ?_⟩
    cases heq
    exact hfinished rfl
  | breakDown hrun hstep =>
    obtain ⟨-, htracks⟩ := h.leave hnumbers hrun hstep.attempts_of_ended
    exact ⟨Memory.keepsFinished_refl _, htracks, fun a heq => by cases heq⟩

end Deployment.Tracks

/-- The attempts in progress are tracked in every run. -/
theorem Deployment.Reaches.tracks (hrun : Deployment.Reaches config compares deadline events d) :
    ∃ tracked, d.Tracks tracked := by
  induction hrun with
  | start => exact ⟨0, tracks_start⟩
  | step hrun hstep ih =>
    obtain ⟨tracked, htracks⟩ := ih
    exact (htracks.step hrun.system.leavesRecords hrun.system.accounted.numbers hstep).2.1

/-- A step of a run keeps the finished records, and an attempt that it ends with success has left one. -/
theorem Deployment.Reaches.keepsFinished {event : Option Event}
    (hrun : Deployment.Reaches config compares deadline events d)
    (hstep : Deployment.Step config.normalized compares deadline d event d') :
    KeepsFinished d.memory d'.memory ∧
      ∀ a, event = some (.attemptEnded a (.returned (.ok ()))) →
        FinishedFor a.identifier d'.memory := by
  obtain ⟨tracked, htracks⟩ := hrun.tracks
  obtain ⟨hkeeps, -, hended⟩ :=
    htracks.step hrun.system.leavesRecords hrun.system.accounted.numbers hstep
  exact ⟨hkeeps, hended⟩

/-! ## What later states keep -/

/-- The states that a system may go on to. -/
def Deployment.Later (config : Config) (compares : Bool) (deadline : Duration) :
    Deployment → Deployment → Prop :=
  Relation.ReflTransGen fun d d' =>
    ∃ event, Deployment.Step config.normalized compares deadline d event d'

/-- No finished record is changed or lost later. -/
theorem Deployment.Reaches.later (hrun : Deployment.Reaches config compares deadline events d)
    (hlater : Deployment.Later config compares deadline d d') :
    KeepsFinished d.memory d'.memory ∧
      ∃ more, Deployment.Reaches config compares deadline (events ++ more) d' := by
  induction hlater with
  | refl => exact ⟨Memory.keepsFinished_refl _, [], (List.append_nil events).symm ▸ hrun⟩
  | tail _ hstep ih =>
    obtain ⟨hkeeps, more, hreached⟩ := ih
    obtain ⟨event, hstep⟩ := hstep
    obtain ⟨hkept, -⟩ := hreached.keepsFinished hstep
    exact ⟨hkeeps.trans hkept, more ++ event.toList, List.append_assoc .. ▸ hreached.step hstep⟩

/-! ## Identifiers that have succeeded -/

/-- Some attempt at an identifier has returned a success, whether or not its end has been seen. -/
def Succeeded (events : List Event) (d : Deployment) (identifier : Run.Identifier) : Prop :=
  ∃ a : Attempt, a.identifier = identifier ∧
    (.attemptEnded a (.returned (.ok ())) ∈ events ∨
      a ∈ d.system.attempts ∧ (a.number, Flow.done (.ok ())) ∈ d.runs)

/-- An attempt whose success has been seen has left a finished record. -/
theorem Deployment.Reaches.ended_finishedFor {a : Attempt}
    (hrun : Deployment.Reaches config compares deadline events d)
    (hended : .attemptEnded a (.returned (.ok ())) ∈ events) :
    FinishedFor a.identifier d.memory := by
  induction hrun with
  | start => exact absurd hended List.not_mem_nil
  | step hrun hstep ih =>
    obtain ⟨hkeeps, hnow⟩ := hrun.keepsFinished hstep
    rcases List.mem_append.mp hended with hbefore | hlast
    · exact (ih hbefore).keep hkeeps
    · exact hnow a (Option.mem_toList.mp hlast)

/-- An identifier with a success has a finished record. -/
theorem Deployment.Reaches.finishedFor {identifier : Run.Identifier}
    (hrun : Deployment.Reaches config compares deadline events d)
    (hsucceeded : Succeeded events d identifier) : FinishedFor identifier d.memory := by
  obtain ⟨a, rfl, hended | ⟨hattempt, hdone⟩⟩ := hsucceeded
  · exact hrun.ended_finishedFor hended
  · obtain ⟨tracked, htracks⟩ := hrun.tracks
    rw [← htracks.runs] at hdone
    obtain ⟨x, hx, heq⟩ := Multiset.mem_map.mp hdone
    obtain ⟨hnumber, hrest⟩ := Prod.mk.inj heq
    obtain rfl := htracks.attempt_eq hrun.system.accounted.numbers hx hattempt hnumber
    exact (htracks.sound x hx).finishedFor hrest

/-! ## Submissions with nothing in between -/

/-- The queue and the store answer one task only. -/
def AtOnce : Flow.Surroundings Effects (Queue × Memory) := fun effect s answer s' =>
  Answers effect s.1 answer s'.1 ∧ Replies effect s.2 answer s'.2

/-- A request is refused, and changes nothing, if its lookup finds finished work. -/
theorem submit_refused {q : Queue} {m : Memory} {r : Request} {record : Run.Record}
    (hrecord : record ∈ m.records) (hfinished : record.status = .finished)
    (haccepts : (Filter.forIdentifier r.identifier).accepts record = true) :
    (submit config r).Achieves AtOnce (q, m) fun result s =>
      result = .ok (.duplicate .alreadyFinished) ∧ s = (q, m) := by
  have hfound : m.answer (.exists_ (.forIdentifier r.identifier) .finished) = (.ok true, m) :=
    hfinished ▸ Memory.answer_exists_of_mem hrecord haccepts
  have hreplies := Replies.store (.exists_ (.forIdentifier r.identifier) .finished) m
  rw [hfound] at hreplies
  refine ⟨⟨Except.ok true, (q, m), .outside rfl _ q, hreplies⟩, ?_⟩
  rintro answer ⟨q', m'⟩ ⟨hqueue, hstore⟩
  cases hqueue
  cases hstore with
  | store _ _ =>
    rw [hfound]
    exact ⟨rfl, rfl⟩
  | other h _ _ => exact absurd rfl (h _)

/-- For every identifier that has succeeded there is a finished record that its filter accepts, be its
element still in the queue or not. No step changes or removes a finished record. So a request for an
identifier that has succeeded is refused if nothing comes between its lookup and its queueing. -/
theorem succeeded_stays_finished (hrun : Deployment.Reaches config compares deadline events d) :
    (∀ identifier, Succeeded events d identifier →
      ∃ record ∈ d.memory.records, record.status = .finished ∧
        (Filter.forIdentifier identifier).accepts record = true) ∧
    (∀ d', Deployment.Later config compares deadline d d' →
      ∀ record ∈ d.memory.records, record.status = .finished → record ∈ d'.memory.records) ∧
    ∀ r : Request, Succeeded events d r.identifier →
      (submit config.normalized r).Achieves AtOnce (d.system.queue, d.memory) fun result s =>
        result = .ok (.duplicate .alreadyFinished) ∧ s = (d.system.queue, d.memory) := by
  have hfound (identifier : Run.Identifier) (hsucceeded : Succeeded events d identifier) :
      ∃ record ∈ d.memory.records, record.status = .finished ∧
        (Filter.forIdentifier identifier).accepts record = true := by
    obtain ⟨record, hrecord, hfinished, rfl⟩ := hrun.finishedFor hsucceeded
    exact ⟨record, hrecord, hfinished, Filter.forIdentifier_matchesIdentifier _⟩
  refine ⟨hfound, fun d' hlater => (hrun.later hlater).1, fun r hsucceeded => ?_⟩
  obtain ⟨record, hrecord, hfinished, haccepts⟩ := hfound r.identifier hsucceeded
  exact submit_refused hrecord hfinished haccepts

/-- The work of a request stays finished when its element has left the queue, and the request is refused
from then on. -/
theorem succeeded_stays_finished_released : ∃ events d,
    Deployment.Reaches {} true Run.defaultDeadline events d ∧ d.system.queue.elements = [] ∧
      Succeeded events d (microRequest "4be2a1f").identifier ∧
      (∃ record ∈ d.memory.records, record.status = .finished ∧
        (Filter.forIdentifier (microRequest "4be2a1f").identifier).accepts record = true) ∧
      (submit ({} : Config).normalized (microRequest "4be2a1f")).Achieves AtOnce
        (d.system.queue, d.memory) fun result s =>
          result = .ok (.duplicate .alreadyFinished) ∧ s = (d.system.queue, d.memory) := by
  let r := microRequest "4be2a1f"
  have hstart : Deployment.Reaches {} true Run.defaultDeadline [] {} := .start
  have hqueued := hstart.submit r _ (unfinished_empty r) (submit_empty _ r 0)
  obtain ⟨more, hreleased, hended⟩ := hqueued.carryOut rfl
  obtain ⟨hfound, -, hrefused⟩ := succeeded_stays_finished hreleased
  refine ⟨_, _, hreleased, rfl, ?succeeded, hfound _ ?succeeded, hrefused r ?succeeded⟩
  exact ⟨_, rfl, Or.inl (List.mem_append_right _ hended)⟩

end BenchQueue.Scheduling
