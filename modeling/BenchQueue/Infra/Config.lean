import BenchQueue.Infra.Error
import BenchQueue.Json.Record
/-!
# Settings of providers and workflows

A provider is named by its kind; all other settings are free. A workflow is a command with its
playbooks and the variables that are handed to it.
-/

namespace BenchQueue.Infra

/-- The kind of the provider that uses the machine it runs on. -/
def localKind : String := "local"

/-- The settings of a provider: its kind, and free settings sorted by name. -/
structure Config where
  kind : String := localKind
  settings : Members Json := []

namespace Config

instance : Inhabited Config := ⟨{}⟩

/-- The strings in a list setting, other items being left out; none if there is no such list. -/
def stringList? (c : Config) (name : String) : Option (List String) :=
  match c.settings.find? name with
  | some (.arr items) => some (items.filterMap Json.str?)
  | _ => none

/-- The settings as an object, the kind first. -/
def toJson (c : Config) : Json := .obj (("kind", .str c.kind) :: c.settings)

/-- Reads settings from an object; members other than the kind are kept as free settings. -/
def ofJson? (json : Json) : Option Config := do
  let members ← json.obj?
  let r ← Json.recordOfMembers ["kind"] members
  let kind ← r.defaulted "kind" localKind Json.str?
  let others := members.filter (·.1 ≠ "kind")
  pure { kind, settings := Members.sort (others.map fun (name, value) => (name, value.canonical)) }

end Config

/-- The kinds of providers that can be made. -/
inductive ProviderKind
  | localMachine
  deriving DecidableEq, Repr

/-- The kind of provider that settings name. -/
def ProviderKind.ofConfig (c : Config) : Except Error ProviderKind :=
  if c.kind = localKind then .ok .localMachine else .error (.unsupported c.kind)

/-- The name of a kind. -/
def ProviderKind.name : ProviderKind → String
  | .localMachine => localKind

/-- The command of workflows that do not name one. -/
def defaultCommand : String := "ansible-playbook"

/-- A command to be run on the provisioned machines. The variables are sorted by name; the files
for its output are set by the run and are not part of the encoded form. -/
structure Workflow where
  command : String := defaultCommand
  playbooks : List String := []
  inventory : Option String := none
  workingDir : Option String := none
  extraVars : Members Json := []
  stdoutPath : Option String := none
  stderrPath : Option String := none

namespace Workflow

instance : Inhabited Workflow := ⟨{}⟩

/-- Sets a variable. -/
def setVar (w : Workflow) (name : String) (value : Json) : Workflow :=
  { w with extraVars := w.extraVars.insert name value }

/-- Adds a playbook behind the others. -/
def addPlaybook (w : Workflow) (playbook : String) : Workflow :=
  { w with playbooks := w.playbooks ++ [playbook] }

/-- The members of an encoded workflow; a file that is not set is null. -/
def toJson (w : Workflow) : Json :=
  .obj [("command", .str w.command), ("playbooks", .arr (w.playbooks.map .str)),
    ("inventory", Json.ofOption .str w.inventory),
    ("working_dir", Json.ofOption .str w.workingDir), ("extra_vars", .obj w.extraVars)]

/-- Reads a workflow; every field may be left out. -/
def ofJson? (json : Json) : Option Workflow := do
  let r ← json.record? ["command", "playbooks", "inventory", "working_dir", "extra_vars"]
  let command ← r.defaulted "command" defaultCommand Json.str?
  let playbooks ← r.defaulted "playbooks" [] (Json.listOf Json.str?)
  let inventory ← r.optional "inventory" Json.str?
  let workingDir ← r.optional "working_dir" Json.str?
  let extraVars ← r.defaulted "extra_vars" [] fun vars =>
    vars.obj?.map fun members =>
      Members.sort (members.map fun (name, value) => (name, value.canonical))
  pure { command, playbooks, inventory, workingDir, extraVars }

end Workflow

/-- A workflow whose files have the names that the machine has for them: bytes, which need not be a
text. -/
@[ext]
structure RawWorkflow where
  command : String
  playbooks : List String
  inventory : Option String
  workingDir : Option ByteArray
  extraVars : Members Json
  stdoutPath : Option ByteArray
  stderrPath : Option ByteArray

/-- The workflow with the bytes of the names of its files. -/
def Workflow.raw (w : Workflow) : RawWorkflow :=
  { command := w.command, playbooks := w.playbooks, inventory := w.inventory,
    workingDir := w.workingDir.map String.toUTF8, extraVars := w.extraVars,
    stdoutPath := w.stdoutPath.map String.toUTF8, stderrPath := w.stderrPath.map String.toUTF8 }

end BenchQueue.Infra
