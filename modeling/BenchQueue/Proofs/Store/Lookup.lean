import BenchQueue.Proofs.Run.Filter
import BenchQueue.Store.Memory
import BenchQueue.Store.Table

/-!
# What a lookup can find

The conditions of a filter, as the clause of a statement, hold of the records that the filter accepts.
So the store in memory and the table look for finished work among the same records, and whatever they
find is finished and accepted.
-/

namespace BenchQueue.Run

/-- Different statuses are written differently. -/
theorem Status.word_injective {a b : Status} (h : a.word = b.word) : a = b := by
  have hword := congrArg Status.ofWord? h
  rw [Status.ofWord?_word, Status.ofWord?_word] at hword
  exact Option.some.inj hword

end BenchQueue.Run

namespace BenchQueue.Database

variable {c : Condition} {conditions more : List Condition} {r : Run.Record}

/-- No conditions hold of every record. -/
@[simp] theorem allHold_nil : allHold [] r = true := rfl

/-- Conditions hold if the first one does and the others do. -/
@[simp] theorem allHold_cons : allHold (c :: conditions) r = (c.holds r && allHold conditions r) :=
  List.all_cons

/-- Conditions hold together if those of both lists do. -/
@[simp] theorem allHold_append :
    allHold (conditions ++ more) r = (allHold conditions r && allHold more r) :=
  List.all_append

/-- A field that a filter may constrain is compared if it is constrained. -/
theorem allHold_constraint {α : Type} [DecidableEq α] (column : RunColumn) (operand : α → Operand)
    (hinjective : ∀ a b, operand a = operand b → a = b) (wanted : Option α) (value : α)
    (hvalue : column.operand r = operand value) :
    allHold (wanted.map fun w => .equals column (operand w)).toList r =
      Run.Filter.admits wanted value := by
  cases wanted with
  | none => rfl
  | some w =>
    have hsame : operand value = operand w ↔ w = value :=
      ⟨fun h => (hinjective _ _ h).symm, fun h => by rw [h]⟩
    simp [Condition.holds, hvalue, Run.Filter.admits, hsame]

/-- The conditions of a filter, field by field. -/
theorem filterConditions_eq (f : Run.Filter) :
    filterConditions f =
      (f.source.map fun s => .equals .source (.text s)).toList ++
        ((f.gitRef.map fun s => .equals .gitRef (.text s)).toList ++
          ((f.benchmarkType.map fun s => .equals .benchmarkType (.text s)).toList ++
            ((f.plannerVersion.map fun s => .equals .plannerVersion (.text s)).toList ++
              (f.pullNumber.map fun n => .equals .pullNumber (.number n)).toList))) := by
  obtain ⟨source, gitRef, benchmarkType, plannerVersion, pullNumber⟩ := f
  cases source <;> cases gitRef <;> cases benchmarkType <;> cases plannerVersion <;>
    cases pullNumber <;> rfl

/-- The conditions of a filter hold of the records that the filter accepts. -/
theorem allHold_filterConditions (f : Run.Filter) (r : Run.Record) :
    allHold (filterConditions f) r = f.accepts r := by
  have htext (a b : String) (h : Operand.text a = .text b) : a = b := Operand.text.inj h
  have hnumber (a b : Int32) (h : Operand.number a = .number b) : a = b := Operand.number.inj h
  rw [filterConditions_eq]
  simp only [allHold_append]
  rw [allHold_constraint .source .text htext f.source r.identifier.source rfl,
    allHold_constraint .gitRef .text htext f.gitRef r.identifier.gitRef rfl,
    allHold_constraint .benchmarkType .text htext f.benchmarkType r.identifier.benchmarkType rfl,
    allHold_constraint .plannerVersion .text htext f.plannerVersion r.identifier.plannerVersion rfl,
    allHold_constraint .pullNumber .number hnumber f.pullNumber r.identifier.pullNumber rfl]
  simp only [Run.Filter.accepts, Run.Filter.matchesIdentifier, Bool.and_assoc]

end BenchQueue.Database

namespace BenchQueue.Store

open BenchQueue.Database (allHold)

variable {m : Memory} {condition : Run.Record → Bool} {records : List Run.Record} {r : Run.Record}
  {filter : Run.Filter}

/-! ## The most recent record -/

/-- The latest of some records is one of them. -/
theorem Memory.foldl_later_mem (r : Run.Record) (rest : List Run.Record) :
    rest.foldl Memory.later r ∈ r :: rest := by
  induction rest generalizing r with
  | nil => exact List.mem_singleton_self r
  | cons next rest ih =>
    rw [List.foldl_cons]
    have hlater : Memory.later r next = r ∨ Memory.later r next = next := by
      unfold Memory.later
      split
      · exact Or.inr rfl
      · exact Or.inl rfl
    rcases List.mem_cons.mp (ih (Memory.later r next)) with hfirst | hrest
    · rw [hfirst]
      rcases hlater with heq | heq <;> simp [heq]
    · exact List.mem_cons_of_mem r (List.mem_cons_of_mem next hrest)

/-- The record chosen is in the store and satisfies the condition. -/
theorem Memory.mem_of_mostRecent? (h : m.mostRecent? condition = some r) :
    r ∈ m.records ∧ condition r = true := by
  rw [← List.mem_filter]
  unfold Memory.mostRecent? at h
  split at h
  · cases h
  · rename_i first rest hfilter
    rw [hfilter, ← Option.some.inj h]
    exact Memory.foldl_later_mem first rest

/-! ## Finished work -/

/-- A record that a lookup of finished work may answer: the one that the store in memory chooses, or
any row of the table that satisfies the clause of the statement. -/
inductive Finds (filter : Run.Filter) (records : List Run.Record) (r : Run.Record) : Prop
  | memory (h : ((Memory.mk records).answer (.findFinished filter)).1 = Except.ok (some r))
  | table (hmem : r ∈ records) (h : allHold (Table.conditions (.findFinished filter)) r = true)

/-- The statement of the table selects the records among which the store in memory chooses. -/
theorem Table.allHold_findFinished (filter : Run.Filter) (r : Run.Record) :
    allHold (Table.conditions (.findFinished filter)) r = Memory.finishedAnd filter.accepts r := by
  have hstatus : (Database.Operand.text r.status.word = .text Run.Status.finished.word) ↔
      r.status = .finished :=
    ⟨fun h => Run.Status.word_injective (Database.Operand.text.inj h), fun h => by rw [h]⟩
  simp only [Table.conditions, Database.allHold_cons, Database.allHold_filterConditions,
    Table.finishedWord, Database.Condition.holds, Database.RunColumn.operand, hstatus,
    Memory.finishedAnd]

/-- What a lookup finds is finished and accepted by the filter. -/
theorem Finds.finished (h : Finds filter records r) :
    r ∈ records ∧ r.status = .finished ∧ filter.accepts r = true := by
  have hfound : r ∈ records ∧ Memory.finishedAnd filter.accepts r = true := by
    cases h with
    | memory hanswer => exact Memory.mem_of_mostRecent? (Except.ok.inj hanswer)
    | table hmem hholds => exact ⟨hmem, Table.allHold_findFinished filter r ▸ hholds⟩
  simpa [Memory.finishedAnd] using hfound

end BenchQueue.Store
