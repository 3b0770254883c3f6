import BenchQueue.Database.Basic
import BenchQueue.Store.Error
/-!
# The schema of the database

The tables of runs and of their measurements are made by one migration. A migration that was begun
before and not completed is reported and not tried again.
-/

namespace BenchQueue.Database

/-- The number of the migration. -/
def migrationVersion : Int := 20250101000000

/-- The statements of the migration. -/
def migrationScript : String :=
  "-- Run records, one row per execution attempt\n" ++
  "CREATE TABLE IF NOT EXISTS execution (\n" ++
  "    id UUID PRIMARY KEY,\n" ++
  "    status TEXT NOT NULL CHECK (status IN ('created', 'started', 'finished', 'failed')),\n" ++
  "    source TEXT NOT NULL,\n" ++
  "    git_ref TEXT NOT NULL,\n" ++
  "    benchmark_type TEXT NOT NULL,\n" ++
  "    planner_version TEXT NOT NULL DEFAULT '',\n" ++
  "    pull_nb INTEGER NOT NULL DEFAULT 0,\n" ++
  "    created_at TIMESTAMPTZ NOT NULL DEFAULT NOW(),\n" ++
  "    started_at TIMESTAMPTZ,\n" ++
  "    finished_at TIMESTAMPTZ\n" ++
  ");\n\n" ++
  "CREATE INDEX IF NOT EXISTS idx_execution_lookup\n" ++
  "    ON execution (source, benchmark_type, status, git_ref);\n\n" ++
  "CREATE INDEX IF NOT EXISTS idx_execution_started_at\n" ++
  "    ON execution (started_at DESC);\n\n" ++
  "-- Micro benchmark results, one row per benchmark function per run\n" ++
  "CREATE TABLE IF NOT EXISTS microbenchmark (\n" ++
  "    id BIGSERIAL PRIMARY KEY,\n" ++
  "    exec_id UUID NOT NULL REFERENCES execution (id) ON DELETE CASCADE,\n" ++
  "    pkg_name TEXT NOT NULL,\n" ++
  "    name TEXT NOT NULL,\n" ++
  "    ns_per_op DOUBLE PRECISION NOT NULL,\n" ++
  "    bytes_per_op DOUBLE PRECISION NOT NULL DEFAULT 0,\n" ++
  "    allocs_per_op DOUBLE PRECISION NOT NULL DEFAULT 0\n" ++
  ");\n\n" ++
  "CREATE INDEX IF NOT EXISTS idx_microbenchmark_exec ON microbenchmark (exec_id);\n\n" ++
  "-- Macro benchmark aggregates, sampled per run\n" ++
  "CREATE TABLE IF NOT EXISTS macrobenchmark (\n" ++
  "    id BIGSERIAL PRIMARY KEY,\n" ++
  "    exec_id UUID NOT NULL REFERENCES execution (id) ON DELETE CASCADE,\n" ++
  "    benchmark_type TEXT NOT NULL,\n" ++
  "    recorded_at TIMESTAMPTZ NOT NULL DEFAULT NOW(),\n" ++
  "    qps_total DOUBLE PRECISION NOT NULL,\n" ++
  "    latency_ms DOUBLE PRECISION NOT NULL,\n" ++
  "    cpu_time DOUBLE PRECISION NOT NULL DEFAULT 0,\n" ++
  "    mem_bytes DOUBLE PRECISION NOT NULL DEFAULT 0\n" ++
  ");\n\n" ++
  "CREATE INDEX IF NOT EXISTS idx_macrobenchmark_exec " ++
  "ON macrobenchmark (exec_id, benchmark_type);\n"

/-- The table that lists the migrations of a database. -/
def migrationTable : String := "_sqlx_migrations"

/-- The statement for the migrations that were begun and not completed. -/
def incompleteMigrations : Statement :=
  { sql := "SELECT version FROM " ++ migrationTable ++ " WHERE success = false" }

/-- The statement of the migration. -/
def migration : Statement := { sql := migrationScript }

/-- A failure of the schema as one of the store. -/
def migrationError (text : String) : Store.Error := .database text

/-- Whether the reply about incomplete migrations permits to go on. -/
def checkIncomplete (reply : Reply) : Except Store.Error Unit :=
  match reply with
  | .error f => .error (migrationError ("while executing migrations: " ++ f.message))
  | .ok result =>
    match result.rows with
    | [] => .ok ()
    | row :: _ =>
      match Row.first row Value.int64? with
      | .error f => .error (migrationError ("while executing migrations: " ++ f.message))
      | .ok version =>
        .error (migrationError ("migration " ++ toString version ++
          " is partially applied; fix and remove row from `" ++ migrationTable ++ "` table"))

/-- Brings the schema up to date. -/
def migrate : Flow Sql (Except Store.Error Unit) := do
  match checkIncomplete (← query incompleteMigrations) with
  | .error e => pure (.error e)
  | .ok () =>
    match ← query migration with
    | .ok _ => pure (.ok ())
    | .error f =>
      pure (.error (migrationError ("while executing migration " ++ toString migrationVersion ++
        ": " ++ f.message)))

end BenchQueue.Database
