import BenchQueue.Proofs.Database.Clause
import BenchQueue.Proofs.Flow
import BenchQueue.Proofs.Store.Lookup

/-!
# The statement of a lookup

A table answers a lookup of records by one statement. Its text does not depend on the values that are
looked for, they are bound to its placeholders in order, and what the text says of a row is what the
store in memory asks of the record in that row.
-/

namespace BenchQueue.Run

/-- A status that a word is read as is written as this word. -/
theorem Status.word_of_ofWord? {word : String} {s : Status} (h : ofWord? word = some s) :
    word = s.word := by
  unfold ofWord? at h
  split at h <;> cases h <;> rfl

end BenchQueue.Run

namespace BenchQueue.Store

open BenchQueue.Database (Condition Value allHold filterConditions)

variable {row : Database.Row} {r : Run.Record}

/-! ## Lookups -/

/-- A request for the existence of a record or for the most recent one. -/
inductive Lookup
  | exists_ (filter : Run.Filter) (status : Run.Status)
  | findFinished (filter : Run.Filter)
  | previousFinished (source benchmarkType excluding : String)
  | latestFinished (source : String)
  deriving DecidableEq, Repr

namespace Lookup

/-- A lookup as a request to the store. -/
def call : Lookup → Call
  | .exists_ filter status => .exists_ filter status
  | .findFinished filter => .findFinished filter
  | .previousFinished source benchmarkType excluding =>
    .previousFinished source benchmarkType excluding
  | .latestFinished source => .latestFinished source

/-- The condition on the records that a lookup looks for. -/
def condition : Lookup → Run.Record → Bool
  | .exists_ filter status => fun r => r.status = status && filter.accepts r
  | .findFinished filter => Memory.finishedAnd filter.accepts
  | .previousFinished source benchmarkType excluding =>
    Memory.finishedAnd (Memory.isPrevious source benchmarkType excluding)
  | .latestFinished source => Memory.finishedAnd fun r => r.identifier.source == source

/-- The reply to a lookup, given the records that satisfy its condition. -/
def replyFrom (m : Memory) : (lookup : Lookup) → (Run.Record → Bool) → lookup.call.Reply
  | .exists_ _ _, condition => .ok (m.records.any condition)
  | .findFinished _, condition => .ok (m.mostRecent? condition)
  | .previousFinished _ _ _, condition => .ok (m.mostRecent? condition)
  | .latestFinished _, condition => .ok (m.mostRecent? condition)

/-- The same lookup with the same fields constrained, but by values that are always the same. -/
def blank : Lookup → Lookup
  | .exists_ filter _ => .exists_ (blankFilter filter) .created
  | .findFinished filter => .findFinished (blankFilter filter)
  | .previousFinished _ _ _ => .previousFinished "" "" ""
  | .latestFinished _ => .latestFinished ""
where
  /-- A filter with the same fields constrained. -/
  blankFilter (f : Run.Filter) : Run.Filter :=
    { source := f.source.map fun _ => ""
      gitRef := f.gitRef.map fun _ => ""
      benchmarkType := f.benchmarkType.map fun _ => ""
      plannerVersion := f.plannerVersion.map fun _ => ""
      pullNumber := f.pullNumber.map fun _ => 0 }

end Lookup

/-- The store in memory answers a lookup from the records that satisfy its condition. -/
theorem Memory.answer_lookup (m : Memory) (lookup : Lookup) :
    m.answer lookup.call = (lookup.replyFrom m lookup.condition, m) := by
  cases lookup <;> rfl

/-! ## The text -/

namespace Table

/-- The texts around the conditions of a run that is asked for. -/
def existenceFrame : Database.Frame where
  head := "SELECT EXISTS (SELECT 1 FROM execution WHERE"
  gap := ')'
  tail := ""
  isGap_gap := by decide
  opens := by decide +kernel
  closes := by decide +kernel
  head_places := by decide +kernel
  tail_places := by decide +kernel

/-- The texts around the conditions of runs of which the most recent one is selected. -/
def selectionFrame : Database.Frame where
  head := "SELECT " ++ columns ++ " FROM execution WHERE"
  gap := ' '
  tail := "ORDER BY started_at DESC NULLS LAST, created_at DESC LIMIT 1"
  isGap_gap := by decide
  opens := by decide +kernel
  closes := by decide +kernel
  head_places := by decide +kernel
  tail_places := by decide +kernel

/-- The texts around the conditions of a lookup. -/
def frame : Lookup → Database.Frame
  | .exists_ _ _ => existenceFrame
  | .findFinished _ | .previousFinished _ _ _ | .latestFinished _ => selectionFrame

/-- The text of a statement for the existence of a run is its conditions in their frame. -/
theorem existence_sql (filter : Run.Filter) (status : Run.Status) :
    (statement (.exists_ filter status)).sql =
      existenceFrame.around (Database.conjunction "" (conditions (.exists_ filter status))) := by
  have hhead : "SELECT EXISTS (SELECT 1 FROM execution WHERE " = existenceFrame.head ++ " " := by
    decide +kernel
  have htail : existenceFrame.tail = "" := rfl
  rw [Database.Frame.around, ← hhead, htail, String.append_empty]
  rfl

/-- The text of a statement that selects the most recent run is its conditions in their frame. -/
theorem selection_sql (call : Call) :
    (selection call mostRecent).sql =
      selectionFrame.around (Database.conjunction "" (conditions call)) := by
  have hhead : "SELECT " ++ columns ++ " FROM execution WHERE " = selectionFrame.head ++ " " := by
    decide +kernel
  have htail : mostRecent = String.singleton selectionFrame.gap ++ selectionFrame.tail := by
    decide +kernel
  rw [selection, hhead, htail, ← String.append_assoc]
  rfl

/-- The statement of a lookup, part by part. -/
theorem statement_sql (lookup : Lookup) :
    (statement lookup.call).sql =
      (frame lookup).around (Database.conjunction "" (conditions lookup.call)) := by
  cases lookup with
  | exists_ filter status => exact existence_sql filter status
  | findFinished filter => exact selection_sql (.findFinished filter)
  | previousFinished source benchmarkType excluding =>
    exact selection_sql (.previousFinished source benchmarkType excluding)
  | latestFinished source => exact selection_sql (.latestFinished source)

/-- The values of a statement are the operands of its conditions. -/
theorem statement_params (lookup : Lookup) :
    (statement lookup.call).params = Database.boundValues (conditions lookup.call) := by
  cases lookup <;> rfl

/-- The conditions of a filter are plain. -/
theorem plain_filterConditions (filter : Run.Filter) : ∀ c ∈ filterConditions filter, c.Plain := by
  intro c hc
  rw [Database.filterConditions_eq] at hc
  simp only [List.mem_append, Option.mem_toList, Option.map_eq_some_iff] at hc
  rcases hc with ⟨_, _, rfl⟩ | ⟨_, _, rfl⟩ | ⟨_, _, rfl⟩ | ⟨_, _, rfl⟩ | ⟨_, _, rfl⟩ <;> trivial

/-- The condition on the status is plain. -/
theorem plain_finishedWord : finishedWord.Plain := by
  change Run.Status.finished.word.toList.all Char.isAlpha = true
  decide +kernel

/-- The conditions of a lookup are plain. -/
theorem plain_conditions (lookup : Lookup) : ∀ c ∈ conditions lookup.call, c.Plain := by
  cases lookup with
  | exists_ filter status =>
    exact List.forall_mem_cons.mpr ⟨by simp, plain_filterConditions filter⟩
  | findFinished filter =>
    exact List.forall_mem_cons.mpr ⟨plain_finishedWord, plain_filterConditions filter⟩
  | previousFinished source benchmarkType excluding =>
    exact List.forall_mem_cons.mpr ⟨plain_finishedWord, by simp⟩
  | latestFinished source => exact List.forall_mem_cons.mpr ⟨plain_finishedWord, by simp⟩

/-- Every lookup has a condition. -/
theorem conditions_ne_nil (lookup : Lookup) : conditions lookup.call ≠ [] := by
  cases lookup <;> exact List.cons_ne_nil _ _

/-- The statement of a lookup reads as the comparisons of its conditions. -/
theorem clause_statement (lookup : Lookup) :
    Database.clause? (statement lookup.call).sql =
      some (Database.comparisons 1 (conditions lookup.call)) := by
  rw [statement_sql]
  exact (frame lookup).clause_around (conditions_ne_nil lookup) (plain_conditions lookup)

/-- The placeholders of the statement are numbered from one, one for each bound value. -/
theorem placeholders_statement (lookup : Lookup) :
    Database.placeholders (statement lookup.call).sql =
      (List.range' 1 (statement lookup.call).params.length).map fun k => "$" ++ toString k := by
  rw [statement_sql, statement_params]
  exact (frame lookup).placeholders_around (plain_conditions lookup)

/-! ## The values that are looked for -/

/-- A condition without its operand. -/
def outline : Condition → Condition
  | .equalsWord column word => .equalsWord column word
  | .equals column _ => .equals column (.text "")
  | .differs column _ => .differs column (.text "")

/-- The texts of conditions do not depend on their operands. -/
theorem conditionTexts_outline (conditions : List Condition) (table : String) (number : Nat) :
    Database.conditionTexts table number (conditions.map outline) =
      Database.conditionTexts table number conditions := by
  induction conditions generalizing number with
  | nil => rfl
  | cons c rest ih =>
    have htext : (outline c).text table number = c.text table number := by cases c <;> rfl
    have hbound : (outline c).bound?.isSome = c.bound?.isSome := by cases c <;> rfl
    simp only [List.map_cons, Database.conditionTexts, htext, hbound, ih]

/-- The condition of a constrained field has the same outline whatever the value is. -/
theorem outline_constraint {α : Type} (wanted : Option α) (blank : α) (condition : α → Condition)
    (h : ∀ a, outline (condition a) = outline (condition blank)) :
    (((wanted.map fun _ => blank).map condition).toList).map outline =
      ((wanted.map condition).toList).map outline := by
  cases wanted with
  | none => rfl
  | some a => simp [h a]

/-- The conditions of a filter have the same outlines whatever the values are. -/
theorem filterConditions_blank (filter : Run.Filter) :
    (filterConditions (Lookup.blank.blankFilter filter)).map outline =
      (filterConditions filter).map outline := by
  simp only [Database.filterConditions_eq, Lookup.blank.blankFilter, List.map_append]
  rw [outline_constraint filter.source, outline_constraint filter.gitRef,
    outline_constraint filter.benchmarkType, outline_constraint filter.plannerVersion,
    outline_constraint filter.pullNumber] <;> exact fun _ => rfl

/-- The conditions of a lookup have the same outlines whatever the values are. -/
theorem conditions_blank (lookup : Lookup) :
    (conditions lookup.blank.call).map outline = (conditions lookup.call).map outline := by
  cases lookup with
  | exists_ filter status =>
    simp only [Lookup.blank, Lookup.call, conditions, List.map_cons, filterConditions_blank, outline]
  | findFinished filter =>
    simp only [Lookup.blank, Lookup.call, conditions, List.map_cons, filterConditions_blank]
  | previousFinished source benchmarkType excluding => rfl
  | latestFinished source => rfl

/-- The text of the statement does not depend on the values that are looked for. -/
theorem statement_blank (lookup : Lookup) :
    (statement lookup.blank.call).sql = (statement lookup.call).sql := by
  have hconjunction : Database.conjunction "" (conditions lookup.blank.call) =
      Database.conjunction "" (conditions lookup.call) := by
    rw [Database.conjunction, Database.conjunction, ← conditionTexts_outline, conditions_blank,
      conditionTexts_outline]
  have hframe : frame lookup.blank = frame lookup := by cases lookup <;> rfl
  rw [statement_sql, statement_sql, hconjunction, hframe]

/-! ## Rows -/

/-- The conditions of the statement hold of the records that the store in memory looks for. -/
theorem allHold_conditions (lookup : Lookup) (r : Run.Record) :
    allHold (conditions lookup.call) r = lookup.condition r := by
  have hstatus (status : Run.Status) :
      (Database.Operand.text r.status.word = .text status.word) ↔ r.status = status :=
    ⟨fun h => Run.Status.word_injective (Database.Operand.text.inj h), fun h => by rw [h]⟩
  cases lookup with
  | exists_ filter status =>
    simp [Lookup.call, Lookup.condition, conditions, Database.allHold_filterConditions,
      Condition.holds, Database.RunColumn.operand, hstatus]
  | findFinished filter => exact allHold_findFinished filter r
  | previousFinished source benchmarkType excluding =>
    rw [Bool.eq_iff_iff]
    simp [Lookup.call, Lookup.condition, conditions, finishedWord, Condition.holds,
      Database.RunColumn.operand, hstatus, Memory.finishedAnd, Memory.isPrevious, and_assoc]
  | latestFinished source =>
    rw [Bool.eq_iff_iff]
    simp [Lookup.call, Lookup.condition, conditions, finishedWord, Condition.holds,
      Database.RunColumn.operand, hstatus, Memory.finishedAnd]

/-- Two steps succeed if the first does, and the second does with its result. -/
theorem bind_eq_ok {ε α β : Type} {x : Except ε α} {f : α → Except ε β} {b : β}
    (h : x >>= f = .ok b) : ∃ a, x = .ok a ∧ f a = .ok b := by
  cases x with
  | error e => cases h
  | ok a => exact ⟨a, rfl, h⟩

/-- A cell that is read was one. -/
theorem cell_eq_ok {α : Type} {value : Except Database.Failure α} {a : α}
    (h : cell value = .ok a) : value = .ok a := by
  cases value with
  | error failure => cases h
  | ok b => exact congrArg Except.ok (Except.ok.inj h)

/-- A column that could be read has the value of what was read. -/
theorem cell_of_required {α : Type} {name : String} {decode : Value → Option α} {encode : α → Value}
    {a : α} (hdecode : ∀ value b, decode value = some b → value = encode b)
    (h : cell (row.required name decode) = .ok a) : row.cell name = .ok (some (encode a)) := by
  obtain ⟨found, hcell, hfound⟩ := bind_eq_ok (cell_eq_ok h)
  rw [hcell]
  split at hfound
  · rename_i b hb
    obtain ⟨value, rfl, hvalue⟩ := Option.bind_eq_some_iff.mp hb
    rw [hdecode value b hvalue, Except.ok.inj hfound]
  · cases hfound

/-- A text that was read is in the row. -/
theorem text_of_required {name s : String} (h : cell (row.required name Value.text?) = .ok s) :
    row.cell name = .ok (some (.text s)) :=
  cell_of_required (fun value b hvalue => by cases value <;> cases hvalue; rfl) h

/-- An identity that was read is in the row. -/
theorem uuid_of_required {name : String} {id : Uuid}
    (h : cell (row.required name Value.uuid?) = .ok id) :
    row.cell name = .ok (some (.uuid id)) :=
  cell_of_required (fun value b hvalue => by cases value <;> cases hvalue; rfl) h

/-- A number that was read is in the row. -/
theorem int32_of_required {name : String} {n : Int32}
    (h : cell (row.required name Value.int32?) = .ok n) : row.cell name = .ok (some (.int32 n)) :=
  cell_of_required (fun value b hvalue => by cases value <;> cases hvalue; rfl) h

/-- A row shows the record that it is read as. -/
theorem shows_of_recordOfRow (h : recordOfRow row = .ok r) : row.Shows r := by
  obtain ⟨word, hword, h⟩ := bind_eq_ok h
  obtain ⟨id, hid, h⟩ := bind_eq_ok h
  cases hstatus : Run.Status.ofWord? word with
  | none =>
    rw [hstatus] at h
    cases h
  | some status =>
    rw [hstatus] at h
    obtain ⟨kept, hkept, h⟩ := bind_eq_ok h
    obtain ⟨source, hsource, h⟩ := bind_eq_ok h
    obtain ⟨gitRef, hgitRef, h⟩ := bind_eq_ok h
    obtain ⟨benchmarkType, htype, h⟩ := bind_eq_ok h
    obtain ⟨plannerVersion, hplanner, h⟩ := bind_eq_ok h
    obtain ⟨pullNumber, hpull, h⟩ := bind_eq_ok h
    obtain ⟨createdAt, -, h⟩ := bind_eq_ok h
    obtain ⟨startedAt, -, h⟩ := bind_eq_ok h
    obtain ⟨finishedAt, -, h⟩ := bind_eq_ok h
    cases Except.ok.inj h
    cases Except.ok.inj hkept
    have hspelled : word = status.word := Run.Status.word_of_ofWord? hstatus
    rw [hspelled] at hword
    intro column
    cases column with
    | id => exact uuid_of_required hid
    | status => exact text_of_required hword
    | source => exact text_of_required hsource
    | gitRef => exact text_of_required hgitRef
    | benchmarkType => exact text_of_required htype
    | plannerVersion => exact text_of_required hplanner
    | pullNumber => exact int32_of_required hpull

/-- On a row that reads as a record, the clause of the statement of a lookup holds when the record
satisfies the condition of the lookup. -/
theorem selects_iff (lookup : Lookup) (h : recordOfRow row = .ok r) :
    (statement lookup.call).Selects row ↔ lookup.condition r = true := by
  have hclause := clause_statement lookup
  have hholds : (∀ c ∈ Database.comparisons 1 (conditions lookup.call),
      c.Holds (Database.boundValues (conditions lookup.call)) row) ↔
        allHold (conditions lookup.call) r = true :=
    Database.comparisons_hold_iff (shows_of_recordOfRow h) []
  rw [allHold_conditions] at hholds
  rw [← hholds, Database.Statement.Selects, statement_params]
  constructor
  · rintro ⟨clause, hread, hall⟩
    rw [hclause] at hread
    cases Option.some.inj hread
    exact hall
  · intro hall
    exact ⟨_, hclause, hall⟩

/-- A run as a row of the table. -/
def rowOf (r : Run.Record) : Database.Row :=
  [⟨"id", some (.uuid r.id)⟩, ⟨"status", some (.text r.status.word)⟩,
    ⟨"source", some (.text r.identifier.source)⟩, ⟨"git_ref", some (.text r.identifier.gitRef)⟩,
    ⟨"benchmark_type", some (.text r.identifier.benchmarkType)⟩,
    ⟨"planner_version", some (.text r.identifier.plannerVersion)⟩,
    ⟨"pull_nb", some (.int32 r.identifier.pullNumber)⟩, ⟨"created_at", some (.time r.createdAt)⟩,
    ⟨"started_at", r.startedAt.map .time⟩, ⟨"finished_at", r.finishedAt.map .time⟩]

/-- Every record is read back from its row. -/
theorem recordOfRow_rowOf (r : Run.Record) : recordOfRow (rowOf r) = .ok r := by
  obtain ⟨id, ⟨source, gitRef, benchmarkType, plannerVersion, pullNumber⟩, status, createdAt,
    startedAt, finishedAt⟩ := r
  cases status <;> cases startedAt <;> cases finishedAt <;> rfl

/-- The table asks for a lookup what the store in memory asks: it sends exactly one statement and reads
the answer from the reply to it. The text of the statement is the same for all values that are looked
for, its placeholders are those of its bound values in order, and its clause holds of a row when the
record in the row satisfies the condition by which the store in memory answers the lookup. -/
theorem same_question (lookup : Lookup) :
    answer lookup.call =
        Flow.ask (statement lookup.call) (fun reply => .done (decode lookup.call reply)) ∧
      (statement lookup.blank.call).sql = (statement lookup.call).sql ∧
      Database.placeholders (statement lookup.call).sql =
        ((List.range' 1 (statement lookup.call).params.length).map fun k => "$" ++ toString k) ∧
      (∀ row r, recordOfRow row = .ok r →
        ((statement lookup.call).Selects row ↔ lookup.condition r = true)) ∧
      ∀ m : Memory, m.answer lookup.call = (lookup.replyFrom m lookup.condition, m) := by
  refine ⟨rfl, statement_blank lookup, placeholders_statement lookup, ?_, ?_⟩
  · intro row r h
    exact selects_iff lookup h
  · intro m
    exact m.answer_lookup lookup

/-- The row of a finished run is selected by the lookup of finished work for its identifier. -/
theorem same_question_row :
    recordOfRow (rowOf { (default : Run.Record) with status := .finished }) =
        .ok { (default : Run.Record) with status := .finished } ∧
      (statement (Lookup.findFinished
        (.forIdentifier (default : Run.Record).identifier)).call).Selects
          (rowOf { (default : Run.Record) with status := .finished }) := by
  have hrow := recordOfRow_rowOf { (default : Run.Record) with status := .finished }
  refine ⟨hrow, ?_⟩
  obtain ⟨-, -, -, hselects, -⟩ :=
    same_question (.findFinished (.forIdentifier (default : Run.Record).identifier))
  exact (hselects _ _ hrow).mpr (by decide +kernel)

end Table

end BenchQueue.Store
