import BenchQueue.Proofs.Run.Recording
import BenchQueue.Run.Executor

/-!
# Ends that exist

An empty file is a configuration, and the run it describes may fail to be prepared, or it may be
executed with success and cleaned up with success or without.
-/

namespace BenchQueue.Run

open BenchQueue.Flow (ends_bind_iff)
open BenchQueue.Store (Memory)

variable {α : Type} {m m' : Memory}

/-- A request of another kind than one to the store may be answered in any way, and the records
stay. -/
theorem ends_other {effect : Effect} {next : effect.Answer → Task α} {a : α}
    (answer : effect.Answer) (heffect : ∀ call, effect ≠ .store call)
    (hnext : (next answer).Ends Accepts m a m') :
    (Flow.ask effect next : Task α).Ends Accepts m a m' :=
  .ask (.other heffect answer m) hnext

/-- A record with a status, written by a clock that stands still. -/
def stillRecord (identifier : Identifier) (status : Status) (startedAt finishedAt : Option Timestamp) :
    Record :=
  { id := .nil, identifier, status, createdAt := default, startedAt, finishedAt }

/-- A run with the default configuration, as it is created. -/
def defaultRun (identifier : Identifier) (configPath : String) : State :=
  { id := .nil, identifier, status := .created, createdAt := default, config := {}, configPath,
    workflow := {}, provider := 0 }

/-- A run may be created from a file that is empty, and then its record is the only one. -/
theorem create_ends (identifier : Identifier) (configPath : String) :
    (create identifier configPath).Ends Accepts {} (.ok (defaultRun identifier configPath))
      ⟨[stillRecord identifier .created none none]⟩ := by
  have hinsert : Memory.answer {} (.insert (stillRecord identifier .created none none)) =
      (.ok (), ⟨[stillRecord identifier .created none none]⟩) := rfl
  refine ends_other (.ok "") (fun _ => Effect.noConfusion) ?_
  refine ends_other Uuid.nil (fun _ => Effect.noConfusion) ?_
  refine ends_other (.ok 0) (fun _ => Effect.noConfusion) ?_
  refine ends_other () (fun _ => Effect.noConfusion) ?_
  refine ends_other () (fun _ => Effect.noConfusion) ?_
  refine ends_other (default : Timestamp) (fun _ => Effect.noConfusion) ?_
  refine .ask (.store hinsert) ?_
  refine ends_other () (fun _ => Effect.noConfusion) ?_
  exact .done _ _

/-- The provider may fail to prepare. -/
theorem unprepared_ends (deadline : Duration) (identifier : Identifier) (configPath : String)
    (e : Infra.Error) :
    (executeFile deadline identifier configPath).Ends Accepts {}
      (.error (.step "prepare" (.infraPrepareFailed e)))
      ⟨[stillRecord identifier .created none none]⟩ := by
  refine ends_bind_iff.mpr ⟨_, _, create_ends identifier configPath, ?_⟩
  refine ends_other (.ok ()) (fun _ => Effect.noConfusion) ?_
  refine ends_other (.error e) (fun _ => Effect.noConfusion) ?_
  exact .done _ _

/-- After a workflow that succeeded, the provider may clean up with any result. -/
theorem executed_ends (deadline : Duration) (identifier : Identifier) (configPath : String)
    (cleaned : Except Infra.Error Unit) :
    (executeFile deadline identifier configPath).Ends Accepts {}
      (inStep "clean up" (cleaned.mapError .cleanUpFailed))
      ⟨[stillRecord identifier .finished (some default) (some default)]⟩ := by
  have hstarted : Memory.answer ⟨[stillRecord identifier .created none none]⟩
      (.updateStatus .nil .started default) =
      (.ok (), ⟨[stillRecord identifier .started (some default) none]⟩) := rfl
  have hfinished : Memory.answer ⟨[stillRecord identifier .started (some default) none]⟩
      (.updateStatus .nil .finished default) =
      (.ok (), ⟨[stillRecord identifier .finished (some default) (some default)]⟩) := rfl
  refine ends_bind_iff.mpr ⟨_, _, create_ends identifier configPath, ?_⟩
  -- The run is prepared and the files for its output are opened.
  refine ends_other (.ok ()) (fun _ => Effect.noConfusion) ?_
  refine ends_other (.ok ()) (fun _ => Effect.noConfusion) ?_
  refine ends_other (.ok ()) (fun _ => Effect.noConfusion) ?_
  refine ends_other (.ok ()) (fun _ => Effect.noConfusion) ?_
  -- It is executed: both calls on the provider return in time.
  refine ends_other (default : Timestamp) (fun _ => Effect.noConfusion) ?_
  refine .ask (.store hstarted) ?_
  refine ends_other () (fun _ => Effect.noConfusion) ?_
  refine ends_other (default : Instant) (fun _ => Effect.noConfusion) ?_
  refine ends_other (.returned (.ok ["10.0.0.1"])) (fun _ => Effect.noConfusion) ?_
  refine ends_other (.returned (.ok ())) (fun _ => Effect.noConfusion) ?_
  refine ends_other (default : Timestamp) (fun _ => Effect.noConfusion) ?_
  refine .ask (.store hfinished) ?_
  refine ends_other cleaned (fun _ => Effect.noConfusion) ?_
  cases cleaned <;> exact .done _ _

end BenchQueue.Run
