import BenchQueue.Infra.Config
import BenchQueue.Machine.Files
import BenchQueue.Run.Error
import BenchQueue.Toml.Printer
import BenchQueue.Toml.Reader
/-!
# Configuration of a run

Where the directories of runs are made, which provider is used and which workflow it runs. The
configuration is read from a TOML document, in which the names of files are texts, and written back as
one.
-/

namespace BenchQueue.Run

/-- The directory of runs that do not set one. -/
def defaultRootDir : String := "/tmp/benchrun"

/-- The configuration of a run. -/
structure Config where
  rootDir : String := defaultRootDir
  infra : Infra.Config := {}
  workflow : Infra.Workflow := {}

/-- The configuration of a run whose files have the names that the machine has for them: bytes, which
need not be a text. -/
structure RawConfig where
  rootDir : ByteArray
  infra : Infra.Config
  workflow : Infra.RawWorkflow

namespace RawConfig

/-- The entry of a value; one that is not set has none. -/
def optionalEntry (name : String) (value : Option Toml) : List (String × Toml) :=
  (value.map fun value => (name, value)).toList

/-- The entries of a workflow, given the forms of its directory and its variables. -/
def workflowEntries (w : Infra.RawWorkflow) (workingDir : Option Toml) (vars : List (String × Toml)) :
    List (String × Toml) :=
  [("command", .str w.command), ("playbooks", .arr (w.playbooks.map .str))] ++
    optionalEntry "inventory" (w.inventory.map .str) ++ optionalEntry "working_dir" workingDir ++
    [("extra_vars", .table vars)]

/-- The entries of the document of a configuration. Settings, variables and names of files may be values
without a TOML form. -/
def toToml (c : RawConfig) : Except Toml.Unsupported (List (String × Toml)) := do
  let rootDir ← Toml.ofFileName c.rootDir
  let settings ← Toml.entriesOfJson c.infra.settings
  let workingDir ← c.workflow.workingDir.mapM Toml.ofFileName
  let vars ← Toml.entriesOfJson c.workflow.extraVars
  pure [("root_dir", rootDir), ("infra", .table (("kind", .str c.infra.kind) :: settings)),
    ("workflow", .table (workflowEntries c.workflow workingDir vars))]

/-- The document of a configuration. -/
def render (c : RawConfig) : Except Error String :=
  match c.toToml with
  | .ok entries => .ok (Toml.render entries)
  | .error cause => .error (.configInvalid cause.message)

end RawConfig

namespace Config

instance : Inhabited Config := ⟨{}⟩

/-- Reads a configuration; every field may be left out. -/
def ofJson? (json : Json) : Option Config := do
  let r ← json.record? ["root_dir", "infra", "workflow"]
  let rootDir ← r.defaulted "root_dir" defaultRootDir Json.str?
  let infra ← r.defaulted "infra" {} Infra.Config.ofJson?
  let workflow ← r.defaulted "workflow" {} Infra.Workflow.ofJson?
  pure { rootDir, infra, workflow }

/-- The configuration in the values of a document. -/
def ofToml? (document : Toml) : Option Config := ofJson? document.toJson

/-- What stands in messages for the position and cause of a syntax error in a document. -/
def syntaxErrorText : String := "TOML parse error"

/-- Reads a document. -/
def parse (text : String) : Except Error Config :=
  match (Toml.parse? text).bind ofToml? with
  | some config => .ok config
  | none => .error (.configInvalid syntaxErrorText)

/-- Reads the document in a file, whose content is given. -/
def ofFile (path : String) (content : Except Machine.Fault String) : Except Error Config :=
  match content with
  | .error fault => .error (.configInvalid ("failed to read " ++ path ++ ": " ++ fault.text))
  | .ok text =>
    (parse text).mapError fun cause => .configInvalid (path ++ ": " ++ cause.message)

/-- The configuration with the bytes of the names of its files. -/
def raw (c : Config) : RawConfig :=
  { rootDir := c.rootDir.toUTF8, infra := c.infra, workflow := c.workflow.raw }

/-- The document of a configuration. -/
def render (c : Config) : Except Error String := c.raw.render

/-- Whether two configurations are the same, floating-point settings being compared as numbers. -/
def same (a b : Config) : Bool :=
  a.rootDir == b.rootDir && a.infra.kind == b.infra.kind &&
    Json.sameMembers a.infra.settings b.infra.settings &&
    a.workflow.command == b.workflow.command &&
    a.workflow.playbooks == b.workflow.playbooks && a.workflow.inventory == b.workflow.inventory &&
    a.workflow.workingDir == b.workflow.workingDir &&
    Json.sameMembers a.workflow.extraVars b.workflow.extraVars &&
    a.workflow.stdoutPath == b.workflow.stdoutPath && a.workflow.stderrPath == b.workflow.stderrPath

end Config

end BenchQueue.Run
