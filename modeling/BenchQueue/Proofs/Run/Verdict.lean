import BenchQueue.Proofs.Run.Ends

/-!
# Results and records

The result of an execution names the step in which it failed. With a store that accepts every write
this step tells the status of the record: a failure to prepare leaves it created, a failure of the
execution makes it failed, and neither success nor a failure to clean up changes that it is finished.
-/

namespace BenchQueue.Run

open BenchQueue.Flow (ensures_done)
open BenchQueue.Store (Memory)

/-- The status of the record that a result goes with. -/
inductive Verdict : Except Error Unit → Status → Prop
  | unprepared (e : Error) : Verdict (.error (.step "prepare" e)) .created
  | failed (e : Error) : Verdict (.error (.step "execution" e)) .failed
  | uncleaned (e : Error) : Verdict (.error (.step "clean up" e)) .finished
  | succeeded : Verdict (.ok ()) .finished

variable {before m m' : Memory} {identifier : Identifier} {status : Status}
  {result : Except Error Unit} {deadline : Duration} {configPath : String}

/-- The failure of the execution outweighs that of the clean up. -/
theorem verdict_firstFailure (executed cleaned : Except Error Unit) :
    Verdict (firstFailure (inStep "execution" executed) (inStep "clean up" cleaned))
      (State.terminalStatus executed) := by
  cases executed with
  | error e => exact .failed e
  | ok _ =>
    cases cleaned with
    | error e => exact .uncleaned e
    | ok _ => exact .succeeded

/-- A record is finished after a success or after a failure of the cleanup. -/
theorem Verdict.finished_iff (h : Verdict result status) :
    status = .finished ↔ result = .ok () ∨ ∃ e, result = .error (.step "clean up" e) := by
  cases h <;> simp

/-- A record is failed after a failure of the execution. -/
theorem Verdict.failed_iff (h : Verdict result status) :
    status = .failed ↔ ∃ e, result = .error (.step "execution" e) := by
  cases h <;> simp

/-- No result goes with a record that is still started. -/
theorem Verdict.ne_started (h : Verdict result status) : status ≠ .started := by
  cases h <;> simp

/-- A record stays as it was created after a failure of the preparation. -/
theorem Verdict.created_iff (h : Verdict result status) :
    status = .created ↔ ∃ e, result = .error (.step "prepare" e) := by
  cases h <;> simp

/-- A run that was created ends with a result that tells the status of its record. -/
theorem drive_ensures {s : State} (hrecorded : Recorded before s.id identifier .created m)
    (deadline : Duration) :
    (drive deadline s).Ensures Accepts m fun r m' =>
      ∃ status, Verdict r status ∧ Recorded before s.id identifier status m' := by
  refine (s.prepare_ensures accepts_storeOnly m).bind fun r _ hprepared => ?_
  obtain ⟨prepared, ready⟩ := r
  obtain ⟨rfl, hid, hready⟩ := hprepared
  cases prepared with
  | error e => exact ensures_done ⟨_, .unprepared e, hrecorded⟩
  | ok _ =>
    refine (ready.openOutputs_ensures accepts_storeOnly _).bind fun r _ hopens => ?_
    obtain ⟨opens, opened⟩ := r
    obtain ⟨rfl, hid', hsame⟩ := hopens
    cases opens with
    | error e => exact ensures_done ⟨_, .unprepared e, hrecorded⟩
    | ok _ =>
      have hopened : opened.prepared = true := hsame.trans (hready rfl)
      rw [← hid, ← hid'] at hrecorded ⊢
      refine (State.execute_ensures hopened hrecorded deadline).bind fun r m' hexecuted => ?_
      obtain ⟨executed, ended⟩ := r
      refine (ended.cleanUp_ensures accepts_storeOnly m').bind fun cleaned _ hcleaned => ?_
      obtain rfl := hcleaned
      exact ensures_done ⟨_, verdict_firstFailure executed cleaned, hexecuted⟩

/-- An execution fails before there is a record, or it ends with a result that tells the status of
the record. -/
theorem executeFile_ensures (deadline : Duration) (identifier : Identifier) (configPath : String)
    (m : Memory) :
    (executeFile deadline identifier configPath).Ensures Accepts m fun r m' =>
      (m' = m ∧ ∃ e, r = .error (.step "create" e)) ∨
        ∃ id status, Verdict r status ∧ Recorded m id identifier status m' := by
  refine (create_ensures identifier configPath m).bind fun created m' hcreated => ?_
  rcases hcreated with ⟨rfl, e, rfl⟩ | ⟨s, rfl, hrecorded⟩
  · exact ensures_done (Or.inl ⟨rfl, e, rfl⟩)
  · refine (drive_ensures hrecorded deadline).mono fun r _ hdriven => ?_
    obtain ⟨status, hverdict, hfinal⟩ := hdriven
    exact Or.inr ⟨s.id, status, hverdict, hfinal⟩

/-- With a store that accepts every write, an execution that ends has either inserted no record and
failed in its first step, or it has inserted one record. This record is finished exactly if the
result is a success or a failure to clean up, failed exactly if the execution step failed, and
still created exactly if the run could not be prepared; it is never left started. -/
theorem executeFile_verdict
    (hends : (executeFile deadline identifier configPath).Ends Accepts m result m') :
    (m' = m ∧ ∃ e, result = .error (.step "create" e)) ∨
      ∃ record, m'.records = m.records ++ [record] ∧ record.identifier = identifier ∧
        (record.status = .finished ↔
          result = .ok () ∨ ∃ e, result = .error (.step "clean up" e)) ∧
        (record.status = .failed ↔ ∃ e, result = .error (.step "execution" e)) ∧
        (record.status = .created ↔ ∃ e, result = .error (.step "prepare" e)) ∧
        record.status ≠ .started := by
  rcases executeFile_ensures deadline identifier configPath m result m' hends with
    hnone | ⟨id, status, hverdict, -, record, hrecords, -, hidentifier, rfl⟩
  · exact Or.inl hnone
  · exact Or.inr ⟨record, hrecords, hidentifier, hverdict.finished_iff, hverdict.failed_iff,
      hverdict.created_iff, hverdict.ne_started⟩

/-- An identifier of a micro benchmark. -/
def microIdentifier : Identifier :=
  { source := "engine", gitRef := "4be2a1f", benchmarkType := "micro" }

/-- A run that could not be cleaned up failed, and its record is finished. -/
theorem executeFile_verdict_uncleaned : ∃ record,
    [stillRecord microIdentifier .finished (some default) (some default)] = [] ++ [record] ∧
      record.identifier = microIdentifier ∧ record.status = .finished := by
  have hends := executed_ends defaultDeadline microIdentifier "micro.toml"
    (.error (.cleanUp "machine is gone"))
  rcases executeFile_verdict hends with
    ⟨hsame, -⟩ | ⟨record, hrecords, hidentifier, hfinished, -⟩
  · cases hsame
  · exact ⟨record, hrecords, hidentifier, hfinished.mpr (Or.inr ⟨_, rfl⟩)⟩

/-- A failure does not always go with a failed record: after a failure to clean up the record is
finished, and after a failure to prepare it is still created. -/
theorem failure_without_failed_record :
    (∃ e record, (executeFile defaultDeadline microIdentifier "micro.toml").Ends Accepts {}
      (.error e) ⟨[record]⟩ ∧ record.status = .finished) ∧
    ∃ e record, (executeFile defaultDeadline microIdentifier "micro.toml").Ends Accepts {}
      (.error e) ⟨[record]⟩ ∧ record.status = .created :=
  ⟨⟨_, _, executed_ends _ _ _ (.error (.cleanUp "machine is gone")), rfl⟩,
    ⟨_, _, unprepared_ends _ _ _ (.prepare "no machine"), rfl⟩⟩

end BenchQueue.Run
