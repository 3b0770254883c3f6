import BenchQueue.Flow
import BenchQueue.Number.Binary64
import BenchQueue.Time.Timestamp
import BenchQueue.Uuid
/-!
# Statements and rows

A database answers a statement with rows, whose cells have names and may be empty, or with a
failure. A statement is a text with numbered placeholders and the values bound to them, so no value
is ever part of the text.
-/

namespace BenchQueue.Database

/-- A value in a cell or bound to a placeholder; a value of a type that is never read is kept by the
name of the type. -/
inductive Value
  | uuid (id : Uuid)
  | text (s : String)
  | int32 (n : Int32)
  | int64 (n : Int)
  | float (x : Float)
  | bool (b : Bool)
  | time (t : Timestamp)
  | other (typeName : String)

instance : Inhabited Value := ⟨.text ""⟩

namespace Value

/-- The value of an identity. -/
def uuid? : Value → Option Uuid
  | .uuid id => some id
  | _ => none

/-- The value of a text. -/
def text? : Value → Option String
  | .text s => some s
  | _ => none

/-- The value of an integer of 32 bits. -/
def int32? : Value → Option Int32
  | .int32 n => some n
  | _ => none

/-- The value of an integer of 64 bits. -/
def int64? : Value → Option Int
  | .int64 n => some n
  | _ => none

/-- The value of a double. -/
def float? : Value → Option Float
  | .float x => some x
  | _ => none

/-- The value of a boolean. -/
def bool? : Value → Option Bool
  | .bool b => some b
  | _ => none

/-- The value of a point in time. -/
def time? : Value → Option Timestamp
  | .time t => some t
  | _ => none

end Value

/-- A statement with the values bound to its placeholders. -/
structure Statement where
  sql : String
  params : List Value := []
  deriving Inhabited

/-- A cell of a row. -/
structure Cell where
  column : String
  value : Option Value

/-- The cells of a row. -/
abbrev Row := List Cell

/-- What a statement that did not fail answers. -/
structure Result where
  rows : List Row := []
  affected : Nat := 0

/-- Why a statement failed or its answer could not be read. -/
inductive Failure
  | server (text : String)
  | connection
  | configuration
  | unknownColumn (name : String)
  | decoding (column : String)
  | noRow
  deriving DecidableEq, Repr

/-- The text of a failure; the details of a lost connection, an unusable configuration and an
undecodable value are left out. -/
def Failure.message : Failure → String
  | .server text => "error returned from database: " ++ text
  | .connection => "error communicating with database"
  | .configuration => "error with configuration"
  | .unknownColumn name => "no column found for name: " ++ name
  | .decoding column => "error occurred while decoding column " ++ column
  | .noRow => "no rows returned by a query that expected to return at least one row"

/-- The answer to a statement. -/
abbrev Reply := Except Failure Result

/-- The signature of a database. -/
@[reducible] def Sql : Signature := ⟨Statement, fun _ => Reply⟩

/-- Runs a statement. -/
def query (s : Statement) : Flow Sql Reply := Flow.ask s Flow.done

namespace Row

/-- How an undecodable column is named in a failure. -/
def columnLabel (name : String) : String := "\"" ++ name ++ "\""

/-- The cell of a column; of several columns with one name the last counts. -/
def cell (row : Row) (name : String) : Except Failure (Option Value) :=
  match row.reverse.find? (·.column = name) with
  | some cell => .ok cell.value
  | none => .error (.unknownColumn name)

/-- The value of a column that must not be empty. -/
def required {α : Type} (row : Row) (name : String) (decode : Value → Option α) :
    Except Failure α := do
  match (← row.cell name).bind decode with
  | some a => pure a
  | none => throw (.decoding (columnLabel name))

/-- The value of a column that may be empty. -/
def optional {α : Type} (row : Row) (name : String) (decode : Value → Option α) :
    Except Failure (Option α) := do
  match ← row.cell name with
  | none => pure none
  | some value =>
    match decode value with
    | some a => pure (some a)
    | none => throw (.decoding (columnLabel name))

/-- The value of the first column, whatever its name is. -/
def first {α : Type} (row : Row) (decode : Value → Option α) : Except Failure α :=
  match (row.head?.bind (·.value)).bind decode with
  | some a => .ok a
  | none => .error (.decoding "0")

end Row

/-- The first row of an answer, if there is one. -/
def Result.row? (r : Result) : Option Row := r.rows.head?

/-- The first row of an answer that must have one. -/
def Result.row (r : Result) : Except Failure Row :=
  match r.rows.head? with
  | some row => .ok row
  | none => .error .noRow

end BenchQueue.Database
