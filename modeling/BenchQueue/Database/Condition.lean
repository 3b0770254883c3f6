import BenchQueue.Database.Basic
import BenchQueue.Run.Record
/-!
# Conditions on run records

A condition compares a column of the table of runs with a value. It has two readings: the text of a
`WHERE` clause with its bound values, and a predicate of records. A clause is a conjunction, whose
placeholders are numbered from one in the order of the bound values.
-/

namespace BenchQueue.Database

/-- A column of the table of runs. -/
inductive RunColumn
  | id
  | status
  | source
  | gitRef
  | benchmarkType
  | plannerVersion
  | pullNumber
  deriving DecidableEq, Repr

/-- The name of a column. -/
def RunColumn.name : RunColumn → String
  | .id => "id"
  | .status => "status"
  | .source => "source"
  | .gitRef => "git_ref"
  | .benchmarkType => "benchmark_type"
  | .plannerVersion => "planner_version"
  | .pullNumber => "pull_nb"

/-- A text or a number that a column is compared with. -/
inductive Operand
  | text (s : String)
  | number (n : Int32)
  | identity (id : Uuid)
  deriving DecidableEq, Repr

/-- The value bound for an operand. -/
def Operand.value : Operand → Value
  | .text s => .text s
  | .number n => .int32 n
  | .identity id => .uuid id

/-- What a record has in a column. -/
def RunColumn.operand (c : RunColumn) (r : Run.Record) : Operand :=
  match c with
  | .id => .identity r.id
  | .status => .text r.status.word
  | .source => .text r.identifier.source
  | .gitRef => .text r.identifier.gitRef
  | .benchmarkType => .text r.identifier.benchmarkType
  | .plannerVersion => .text r.identifier.plannerVersion
  | .pullNumber => .number r.identifier.pullNumber

/-- A comparison of a column with a word of the statement itself or with a bound value. -/
inductive Condition
  | equalsWord (column : RunColumn) (word : String)
  | equals (column : RunColumn) (operand : Operand)
  | differs (column : RunColumn) (operand : Operand)
  deriving DecidableEq, Repr

namespace Condition

/-- Whether a condition holds of a record. -/
def holds (c : Condition) (r : Run.Record) : Bool :=
  match c with
  | .equalsWord column word => column.operand r = .text word
  | .equals column operand => column.operand r = operand
  | .differs column operand => column.operand r ≠ operand

/-- The value that a condition binds, if it binds one. -/
def bound? : Condition → Option Operand
  | .equalsWord _ _ => none
  | .equals _ operand | .differs _ operand => some operand

/-- The text of a condition on the columns of a table, given the number of its placeholder. -/
def text (table : String) (number : Nat) : Condition → String
  | .equalsWord column word => table ++ column.name ++ " = '" ++ word ++ "'"
  | .equals column _ => table ++ column.name ++ " = $" ++ toString number
  | .differs column _ => table ++ column.name ++ " <> $" ++ toString number

end Condition

/-- The texts of conditions; `number` is that of the next placeholder. -/
def conditionTexts (table : String) : (number : Nat) → List Condition → List String
  | _, [] => []
  | number, c :: rest =>
    c.text table number ::
      conditionTexts table (if c.bound?.isSome then number + 1 else number) rest

/-- The conjunction of conditions. -/
def conjunction (table : String) (conditions : List Condition) : String :=
  " AND ".intercalate (conditionTexts table 1 conditions)

/-- The values that conditions bind, in order. -/
def boundValues (conditions : List Condition) : List Value :=
  conditions.filterMap fun c => c.bound?.map Operand.value

/-- Whether all conditions hold of a record. -/
def allHold (conditions : List Condition) (r : Run.Record) : Bool :=
  conditions.all (·.holds r)

/-- The conditions of a filter on the fields that it constrains. -/
def filterConditions (f : Run.Filter) : List Condition :=
  [f.source.map fun s => .equals .source (.text s),
    f.gitRef.map fun s => .equals .gitRef (.text s),
    f.benchmarkType.map fun s => .equals .benchmarkType (.text s),
    f.plannerVersion.map fun s => .equals .plannerVersion (.text s),
    f.pullNumber.map fun n => .equals .pullNumber (.number n)].filterMap id

end BenchQueue.Database
