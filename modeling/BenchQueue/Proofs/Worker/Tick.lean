import BenchQueue.Proofs.Scheduling.Reading
import BenchQueue.Proofs.Scheduling.Runs
import BenchQueue.Worker.Cron

/-!
# What a tick asks

A tick of the regular submissions runs git commands, looks up previous runs and makes submissions. It
does nothing to the queue or the records but through these submissions, and all of them are for
benchmarks at the commit that was checked out.
-/

namespace BenchQueue.Worker

open BenchQueue.Scheduling

variable {α : Type} {c : Cron} {head : String}

/-- An answer about the commit that is checked out names one commit. -/
def SeesHead (head : String) : (effect : Effect) → effect.Answer → Prop
  | .command command, answer => ∀ f, answer = Except.ok f →
      command.arguments = ["rev-parse", "HEAD"] → f.status.isSuccess = true →
        Text.trim f.output = head
  | _, _ => True

/-- A request leaves the queue and the records alone. -/
def Aside (effect : Effect) : Prop := isOutside effect = true ∧ LeavesRecords effect

/-- A request is one of the regular submissions at a commit. -/
structure IsRegular (c : Cron) (head : String) (r : Request) : Prop where
  identifier : ∃ benchmark ∈ c.benchmarks, r.identifier = Cron.identifier head benchmark
  retry : r.retry = none

/-- The rest of a tick that is not between the two steps of a submission. -/
inductive Tick (c : Cron) (head : String) : Task (Except Report Nat) → Prop
  | done (result : Except Report Nat) : Tick c head (.done result)
  | ask {effect : Effect} {next : effect.Answer → Task (Except Report Nat)} (heffect : Aside effect)
      (hnext : ∀ answer, SeesHead head effect answer → Tick c head (next answer)) :
      Tick c head (Flow.ask effect next)
  | submit {r : Request} {rest : Except Store.Error Submission → Task (Except Report Nat)}
      (hr : IsRegular c head r) (hrest : ∀ result, Tick c head (rest result)) :
      Tick c head ((submit c.scheduler r).bind rest)

/-- Requests that leave the queue and the records alone may come before the rest of a tick. -/
theorem Tick.bind {task : Task α} {f : α → Task (Except Report Nat)} (htask : task.Asks Aside)
    (hf : ∀ a, Tick c head (f a)) : Tick c head (task.bind f) := by
  induction task with
  | done a => exact hf a
  | ask effect next ih => exact .ask htask.1 fun answer _ => ih answer (htask.2 answer)

/-! ## The source -/

/-- A request to neither the queue nor the store leaves both alone. -/
theorem aside_of_ne_store {effect : Effect} (houtside : isOutside effect = true)
    (hstore : ∀ call, effect ≠ .store call) : Aside effect :=
  ⟨houtside, leavesRecords_of_ne_store hstore⟩

/-- A command on the clone leaves the queue and the records alone. -/
theorem git_asks (dir : Option String) (arguments : List String) :
    (Source.git dir arguments).Asks Aside := by
  refine ⟨aside_of_ne_store rfl fun _ => Effect.noConfusion, fun answer => ?_⟩
  cases answer <;> trivial

/-- Commands on the clone leave the queue and the records alone. -/
theorem gitAll_asks (dir : Option String) (commands : List (List String)) :
    (Source.gitAll dir commands).Asks Aside := by
  induction commands with
  | nil => trivial
  | cons arguments rest ih =>
    refine (git_asks dir arguments).bind fun result => ?_
    cases result with
    | error e => trivial
    | ok _ => exact ih

/-- Cloning leaves the queue and the records alone. -/
theorem clone_asks (s : Source) : s.clone.Asks Aside := by
  have hcommand : (Source.gitAll none [["clone", s.remote, s.dir]]).Asks Aside := gitAll_asks _ _
  unfold Source.clone
  split
  · exact hcommand
  · refine ⟨aside_of_ne_store rfl fun _ => Effect.noConfusion, fun answer => ?_⟩
    cases answer with
    | error fault => trivial
    | ok _ => exact hcommand

/-- Bringing the clone up to date leaves the queue and the records alone. -/
theorem sync_asks (s : Source) : s.sync.Asks Aside := by
  have hreset : (Source.gitAll (some s.dir)
      [["fetch", "origin", "--tags"], ["reset", "--hard", "origin/" ++ s.branch]]).Asks Aside :=
    gitAll_asks _ _
  refine ⟨aside_of_ne_store rfl fun _ => Effect.noConfusion, fun present => ?_⟩
  cases present with
  | true => exact hreset
  | false =>
    refine (clone_asks s).bind fun cloned => ?_
    cases cloned with
    | error e => trivial
    | ok _ => exact hreset

/-- What follows the look at the commit that is checked out starts with this commit or a failure. -/
theorem tick_head (s : Source) {rest : Except Report String → Task (Except Report Nat)}
    (herror : ∀ e, Tick c head (rest (.error e))) (hok : Tick c head (rest (.ok head))) :
    Tick c head (s.head.bind rest) := by
  refine .ask (aside_of_ne_store rfl fun _ => Effect.noConfusion) fun answer hsees => ?_
  cases answer with
  | error fault => exact herror _
  | ok f =>
    have hrest (failure : Report) : Tick c head (rest (Except.map Text.trim
        (if f.status.isSuccess then .ok f.output else .error failure))) := by
      split
      · rename_i hsuccess
        rw [Except.map, hsees f rfl rfl hsuccess]
        exact hok
      · exact herror failure
    exact hrest _

/-! ## The submissions -/

/-- A look for the previous run leaves the records as they are. -/
theorem leavesRecords_previousFinished (source benchmarkType excluding : String) :
    LeavesRecords (.store (.previousFinished source benchmarkType excluding)) := by
  intro m answer m' hreplies
  cases hreplies with
  | store _ _ => rfl
  | other h _ _ => exact absurd rfl (h _)

/-- The submission of a benchmark may come first. -/
theorem tick_submitBenchmark {benchmark : String} (hbenchmark : benchmark ∈ c.benchmarks)
    {rest : Except Report Bool → Task (Except Report Nat)} (hrest : ∀ result, Tick c head (rest result)) :
    Tick c head ((Cron.submitBenchmark c.scheduler c.runConfig head benchmark).bind rest) := by
  refine .ask ⟨rfl, leavesRecords_previousFinished _ _ _⟩ fun found _ => ?_
  cases found with
  | error e => exact hrest _
  | ok previous =>
    change Tick c head (((submit c.scheduler _).bind _).bind rest)
    rw [Flow.bind_assoc]
    refine .submit ⟨⟨benchmark, hbenchmark, rfl⟩, rfl⟩ fun result => ?_
    cases result with
    | error e => exact hrest _
    | ok submission => exact hrest _

/-- The submissions for a list of benchmarks are those of a tick, if the rest is. -/
theorem tick_submitRef {benchmarks : List String} (hsubset : ∀ b ∈ benchmarks, b ∈ c.benchmarks)
    {rest : Except Report Nat → Task (Except Report Nat)} (hrest : ∀ result, Tick c head (rest result)) :
    Tick c head ((Cron.submitRef c.scheduler c.runConfig head benchmarks).bind rest) := by
  induction benchmarks generalizing rest with
  | nil => exact hrest _
  | cons benchmark others ih =>
    obtain ⟨hbenchmark, hothers⟩ := List.forall_mem_cons.mp hsubset
    change Tick c head (((Cron.submitBenchmark c.scheduler c.runConfig head benchmark).bind _).bind rest)
    rw [Flow.bind_assoc]
    refine tick_submitBenchmark hbenchmark fun result => ?_
    cases result with
    | error e => exact hrest _
    | ok accepted =>
      change Tick c head (((Cron.submitRef c.scheduler c.runConfig head others).bind _).bind rest)
      rw [Flow.bind_assoc]
      exact ih hothers fun result => hrest _

/-- A tick as it starts. -/
theorem tick_tick (c : Cron) (head : String) : Tick c head c.tick := by
  refine Tick.bind (sync_asks c.source) fun synced => ?_
  cases synced with
  | error e => exact .done _
  | ok _ =>
    refine tick_head c.source (fun e => .done _) ?_
    have hsubmits : Tick c head
        ((Cron.submitRef c.scheduler c.runConfig head c.benchmarks).bind Flow.done) :=
      tick_submitRef (fun _ hb => hb) .done
    rwa [Flow.bind_done] at hsubmits

end BenchQueue.Worker
