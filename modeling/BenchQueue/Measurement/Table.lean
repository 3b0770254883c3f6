import BenchQueue.Database.Condition
import BenchQueue.Measurement.Error
import BenchQueue.Measurement.Summary
/-!
# Measurements in a database

The results of a micro benchmark are the mean times of its functions, those of a macro benchmark its
mean throughput and latency, over all finished runs of a commit. Two runs are compared by the kind
of the finished one: first its own results are read, then those of the target.
-/

namespace BenchQueue.Measurement

open Database (Condition Reply Row Statement Value)

/-- A failure of the database as one of a measurement. -/
def cell {α : Type} (value : Except Database.Failure α) : Except Error α :=
  value.mapError fun f => .database f.message

/-- The conditions on the runs whose results belong to a micro benchmark. -/
def microConditions (i : Run.Identifier) : List Condition :=
  [.equalsWord .status Run.Status.finished.word, .equals .gitRef (.text i.gitRef),
    .equals .source (.text i.source), .equalsWord .benchmarkType Run.microType]

/-- The conditions on the runs whose results belong to a macro benchmark. -/
def macroConditions (i : Run.Identifier) : List Condition :=
  [.equalsWord .status Run.Status.finished.word, .equals .gitRef (.text i.gitRef),
    .equals .source (.text i.source), .equals .benchmarkType (.text i.benchmarkType),
    .equals .plannerVersion (.text i.plannerVersion)]

/-- The conditions on the runs whose results are collected, by kind. -/
def conditions (kind : Run.Kind) (i : Run.Identifier) : List Condition :=
  match kind with
  | .micro => microConditions i
  | .macroBench _ => macroConditions i

/-- The statement for the results of a micro benchmark. -/
def microStatement (i : Run.Identifier) : Statement :=
  { sql := "SELECT m.pkg_name, m.name, AVG(m.ns_per_op) AS ns_per_op FROM microbenchmark m " ++
      "JOIN execution e ON e.id = m.exec_id WHERE " ++
      Database.conjunction "e." (microConditions i) ++ " GROUP BY m.pkg_name, m.name"
    params := Database.boundValues (microConditions i) }

/-- The statement for the results of a macro benchmark. -/
def macroStatement (i : Run.Identifier) : Statement :=
  { sql := "SELECT COUNT(m.id) AS samples, AVG(m.qps_total) AS qps, " ++
      "AVG(m.latency_ms) AS latency_ms FROM macrobenchmark m " ++
      "JOIN execution e ON e.id = m.exec_id WHERE " ++
      Database.conjunction "e." (macroConditions i)
    params := Database.boundValues (macroConditions i) }

/-- The name of a function of a package. -/
def functionName (package name : String) : String := package ++ "." ++ name

/-- Adds the function of a row. -/
def addRow (results : MicroResults) (row : Row) : Except Error MicroResults := do
  let package ← cell (row.required "pkg_name" Value.text?)
  let name ← cell (row.required "name" Value.text?)
  let nanos ← cell (row.required "ns_per_op" Value.float?)
  pure (results.insert (functionName package name) nanos)

/-- Reads the results of a micro benchmark. -/
def readMicro (reply : Reply) : Except Error MicroResults := do
  (← cell reply).rows.foldlM addRow []

/-- Reads the results of a macro benchmark. No sample at all is a failure; a mean that is missing
counts as zero. -/
def readMacro (i : Run.Identifier) (reply : Reply) : Except Error MacroSample := do
  let row ← cell ((← cell reply).row)
  let samples ← cell (row.required "samples" Value.int64?)
  if samples = 0 then throw (.noResult i.text)
  let qps ← cell (row.optional "qps" Value.float?)
  let latency ← cell (row.optional "latency_ms" Value.float?)
  pure ⟨qps.getD 0.0, latency.getD 0.0⟩

/-- Compares the micro benchmarks of two runs. -/
def compareMicro (threshold : Float) (current target : Run.Identifier) :
    Flow Database.Sql (Except Error String) := do
  match readMicro (← Database.query (microStatement current)) with
  | .error e => pure (.error e)
  | .ok now =>
    match readMicro (← Database.query (microStatement target)) with
    | .error e => pure (.error e)
    | .ok before => pure (.ok (microSummary now before threshold))

/-- Compares the macro benchmarks of two runs. -/
def compareMacro (threshold : Float) (current target : Run.Identifier) :
    Flow Database.Sql (Except Error String) := do
  match readMacro current (← Database.query (macroStatement current)) with
  | .error e => pure (.error e)
  | .ok now =>
    match readMacro target (← Database.query (macroStatement target)) with
    | .error e => pure (.error e)
    | .ok before => pure (.ok (macroSummary now before threshold))

/-- Compares two runs by the results of a kind. -/
def compare (kind : Run.Kind) (threshold : Float) (current target : Run.Identifier) :
    Flow Database.Sql (Except Error String) :=
  match kind with
  | .micro => compareMicro threshold current target
  | .macroBench _ => compareMacro threshold current target

end BenchQueue.Measurement
