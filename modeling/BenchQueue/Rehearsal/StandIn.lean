import BenchQueue.Database.Address
import BenchQueue.Json.Record
import BenchQueue.Machine.Files
/-!
# A database that is played

A stand-in for a database answers statements from prepared replies, each of which may be used a
number of times, and remembers the statements that it has seen. A statement for which nothing is
prepared finds no rows and changes one.
-/

namespace BenchQueue.Rehearsal

open Database (Cell Failure Reply Result Row Statement Value)

/-- The value of a column of a type in a prepared row; an empty cell has none. -/
def valueOfType (type : String) (json : Json) : Option Value :=
  match type, json with
  | _, .null => none
  | "uuid", .str s => some (((Uuid.parse? s).map .uuid).getD (.other type))
  | "text", .str s | "varchar", .str s | "bpchar", .str s | "name", .str s => some (.text s)
  | "int4", .int n => some (.int32 (Int32.ofInt n))
  | "int8", .int n => some (.int64 n)
  | "float8", .str "nan" => some (.float (0.0 / 0.0))
  | "float8", .str "inf" => some (.float (1.0 / 0.0))
  | "float8", .str "-inf" => some (.float (-1.0 / 0.0))
  | "float8", json => some ((json.float?.map .float).getD (.other type))
  | "bool", .bool b => some (.bool b)
  | "timestamptz", .str s =>
    some (((Timestamp.parse? s).map fun t => .time (.ofMicros t.toMicros)).getD (.other type))
  | _, _ => some (.other type)

/-- The name and the type of a column. -/
abbrev Column := String × String

/-- The columns of a run. -/
def runColumns : List Column :=
  [("id", "uuid"), ("status", "text"), ("source", "text"), ("git_ref", "text"),
    ("benchmark_type", "text"), ("planner_version", "text"), ("pull_nb", "int4"),
    ("created_at", "timestamptz"), ("started_at", "timestamptz"), ("finished_at", "timestamptz")]

/-- What a statement asks for. -/
inductive Question
  | existence
  | count
  | means
  | versions
  | runs
  | change
  deriving DecidableEq, Repr

/-- Whether a text occurs in another one. -/
def occursIn (part whole : String) : Bool := 1 < (whole.splitOn part).length || part = ""

/-- What a statement asks for, by its text. -/
def Question.ofStatement (s : Statement) : Question :=
  if s.sql.startsWith "SELECT EXISTS" then .existence
  else if occursIn "COUNT(" s.sql then .count
  else if occursIn "AVG(m.ns_per_op)" s.sql then .means
  else if s.sql.startsWith "SELECT version" then .versions
  else if s.sql.startsWith "SELECT" then .runs
  else .change

/-- The columns of the answer to a question. -/
def Question.columns : Question → List Column
  | .existence => [("exists", "bool")]
  | .count => [("samples", "int8"), ("qps", "float8"), ("latency_ms", "float8")]
  | .means => [("pkg_name", "text"), ("name", "text"), ("ns_per_op", "float8")]
  | .versions => [("version", "int8")]
  | .runs => runColumns
  | .change => []

/-- A row with values for columns. -/
def makeRow (columns : List Column) (values : List Json) : Row :=
  (columns.zip values).map fun ((column, type), value) => ⟨column, valueOfType type value⟩

/-- The answer to a question that nothing is prepared for. -/
def Question.unprepared (q : Question) : Result :=
  match q with
  | .existence => { rows := [makeRow q.columns [.bool false]] }
  | .count => { rows := [makeRow q.columns [.int 0, .null, .null]] }
  | .means | .versions | .runs => {}
  | .change => { affected := 1 }

/-- A reply that is prepared for the statements whose text has a part. -/
structure PreparedReply where
  part : String := ""
  times : Nat := 1
  columns : Option (List Column) := none
  rows : List (List Json) := []
  affected : Nat := 1
  failure : Option Failure := none

instance : Inhabited PreparedReply := ⟨{}⟩

namespace PreparedReply

/-- Whether a reply is for a statement. Statements that keep the schema up to date are only answered
by a reply that names a part of them. -/
def isFor (p : PreparedReply) (s : Statement) : Bool :=
  0 < p.times && occursIn p.part s.sql && !(p.part = "" && Question.ofStatement s = .versions)

/-- The reply to a statement. -/
def reply (p : PreparedReply) (s : Statement) : Reply :=
  match p.failure with
  | some failure => .error failure
  | none =>
    let columns := p.columns.getD (Question.ofStatement s).columns
    .ok { rows := p.rows.map (makeRow columns), affected := p.affected }

end PreparedReply

/-- A database that is played: the directory of its socket, the prepared replies, and the statements
it has seen. -/
structure StandIn where
  socketDir : String
  prepared : List PreparedReply := []
  seen : List Statement := []
  deriving Inhabited

namespace StandIn

/-- Uses up one of the prepared replies for a statement. -/
def take (s : Statement) : List PreparedReply → Option PreparedReply × List PreparedReply
  | [] => (none, [])
  | p :: rest =>
    if p.isFor s then (some p, { p with times := p.times - 1 } :: rest)
    else
      let (found, rest) := take s rest
      (found, p :: rest)

/-- Whether a statement is remembered: those about the state of the schema are not. -/
def isRemembered (s : Statement) : Bool := Question.ofStatement s ≠ .versions

/-- Answers a statement. -/
def answer (s : Statement) (db : StandIn) : Reply × StandIn :=
  let (found, prepared) := take s db.prepared
  let seen := if isRemembered s then db.seen ++ [s] else db.seen
  let reply := match found with
    | some p => p.reply s
    | none => .ok (Question.ofStatement s).unprepared
  (reply, { db with prepared, seen })

/-- Connects to the database that an address names. -/
def connect (db : StandIn) (url : String) : Except Failure Unit := do
  let dir ← Database.socketOf url
  if Machine.Files.plainParts dir = Machine.Files.plainParts db.socketDir then pure ()
  else throw .connection

/-- Prepares other replies and forgets the statements that were seen. -/
def prepare (db : StandIn) (prepared : List PreparedReply) : StandIn :=
  { db with prepared, seen := [] }

end StandIn

end BenchQueue.Rehearsal
