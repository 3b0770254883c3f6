import BenchQueue.Run.Config
import BenchQueue.Run.Record
import BenchQueue.Text.Quote
/-!
# The state of a run

A run has a record in the store, a configuration, a provider of its own and, once it is prepared, a
directory. The workflow is a copy of the configured one that gains the variables of the run.
-/

namespace BenchQueue.Run

/-- The name of the configuration written into the directory of a run that came without a file. -/
def resolvedConfigFile : String := "run-config.toml"

/-- The name of the file for the output of a workflow. -/
def stdoutFile : String := "exec-stdout.log"

/-- The name of the file for the diagnostics of a workflow. -/
def stderrFile : String := "exec-stderr.log"

/-- A run. `provider` is the handle of its provider; `logPath` is the open log. -/
structure State where
  id : Uuid
  identifier : Identifier
  status : Status
  createdAt : Timestamp
  startedAt : Option Timestamp := none
  finishedAt : Option Timestamp := none
  config : Config
  configPath : Option String := none
  dirPath : Option String := none
  logPath : Option String := none
  workflow : Infra.Workflow
  provider : Nat
  prepared : Bool := false

instance : Inhabited State :=
  ⟨{ id := .nil, identifier := default, status := .created, createdAt := default, config := {},
     workflow := {}, provider := 0 }⟩

namespace State

/-- The run after a change of its status at a point in time. -/
def withStatus (s : State) (status : Status) (at_ : Timestamp) : State :=
  { s with
    status
    startedAt := if status = .started then some at_ else s.startedAt
    finishedAt := if status.isTerminal then some at_ else s.finishedAt }

/-- The tags of the machines of a run. -/
def tags (i : Identifier) : Members String :=
  [("execution_git_ref", i.shortRef), ("execution_source", i.source)]

/-- The variables that a run gives to its workflow, those for the configuration file only if there
is one. -/
def runVariables (s : State) (hosts : List String) : Members Json :=
  [("benchrun_exec_uuid", .str s.id.text), ("benchrun_source", .str s.identifier.source),
    ("benchrun_git_ref", .str s.identifier.gitRef),
    ("benchrun_planner_version", .str s.identifier.plannerVersion),
    ("benchrun_pull_nb", .int s.identifier.pullNumber.toInt),
    ("benchrun_hosts", .arr (hosts.map .str))] ++
    match s.configPath with
    | some path => [("benchrun_config_path", .str path)]
    | none => []

/-- The run with its variables in the workflow. -/
def withVariables (s : State) (hosts : List String) : State :=
  { s with workflow :=
      (s.runVariables hosts).foldl (fun w (name, value) => w.setVar name value) s.workflow }

/-- The line that a run writes into its log when it starts. -/
def startLine (s : State) : String :=
  "[benchrun] run " ++ s.id.text ++ " started for " ++ s.identifier.text

/-- The line that a run writes into its log when it has failed. -/
def failureLine (s : State) (e : Error) : String :=
  "[benchrun] run " ++ s.id.text ++ " failed: " ++ e.message

/-- The members of an identifier in a diagnostic. -/
def identifierSummary (i : Identifier) : String :=
  "RunIdentifier \x7b source: " ++ Text.showText i.source ++
    ", git_ref: " ++ Text.showText i.gitRef ++
    ", benchmark_type: " ++ Text.showText i.benchmarkType ++ ", planner_version: " ++
    Text.showText i.plannerVersion ++ ", pull_nb: " ++ toString i.pullNumber.toInt ++ " \x7d"

/-- A run in a diagnostic. -/
def summary (s : State) : String :=
  "Run \x7b id: " ++ s.id.text ++ ", identifier: " ++ identifierSummary s.identifier ++
    ", status: " ++ s.status.name ++ ", dir_path: " ++ Text.showOptional s.dirPath ++
    ", prepared: " ++ (if s.prepared then "true" else "false") ++ ", .. \x7d"

end State

end BenchQueue.Run
