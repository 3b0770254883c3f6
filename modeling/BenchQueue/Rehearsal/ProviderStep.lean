import BenchQueue.Rehearsal.Account
/-!
# Rehearsing the provider on the own machine

Calls on a provider are made one after the other on a machine that is played.
-/

namespace BenchQueue.Rehearsal

/-- A call on the provider, or a look at the machine. -/
inductive ProviderStep
  | pass
  | kind
  | setConfig (config : Infra.Config)
  | newIdentity
  | setTags (tags : Members String)
  | prepare
  | provision
  | run (workflow : Infra.Workflow)
  | cleanUp
  | read (path : String)

/-- What a call on the provider answers. -/
inductive ProviderFinding
  | nothing
  | tags (tags : Members String)
  | result (result : Except Infra.Error Unit)
  | hosts (result : Except Infra.Error (List String))
  | text (t : Option String)

namespace ProviderStep

/-- Reads the workflow of a step, with the files for its output. -/
def workflowOfJson? (json : Json) : Option Infra.Workflow := do
  let workflow ← json.decodeEmbeddedOr? "workflow" {} Infra.Workflow.ofJson?
  let path (name : String) : Option String := (json.get? name).bind Json.str?
  pure { workflow with stdoutPath := path "stdout", stderrPath := path "stderr" }

/-- Reads a step. -/
def ofJson? (json : Json) : Option ProviderStep := do
  match json.textOr "do" "" with
  | "name" => pure .kind
  | "config" => return .setConfig (← json.decodeEmbedded? "config" Infra.Config.ofJson?)
  | "uuid" => pure .newIdentity
  | "tags" =>
    let tags ← (json.membersOf "tags").mapM fun (name, tag) => tag.str?.map fun t => (name, t)
    pure (.setTags (Members.sort tags))
  | "prepare" => pure .prepare
  | "provision" => pure .provision
  | "run" => return .run (← workflowOfJson? json)
  | "clean_up" => pure .cleanUp
  | "read" => return .read (← (json.get? "path").bind Json.str?)
  | _ => none

/-- The provider of the rehearsal is the first one. -/
def handle : Nat := 0

/-- Takes a step. -/
def take : ProviderStep → Act ProviderFinding
  | .pass => pure .nothing
  | .kind => pure (.text (some Infra.ProviderKind.localMachine.name))
  | .setConfig config => do
    let () ← callProvider handle (.setConfig config)
    pure .nothing
  | .newIdentity => do
    let () ← callProvider handle (.setExecUuid (← Act.step World.newIdentity))
    pure .nothing
  | .setTags tags => do
    let () ← callProvider handle (.setTags tags)
    pure (.tags tags)
  | .prepare => return .result (← callProvider handle .prepare)
  | .provision => return .hosts (← callProvider handle .provision)
  | .run workflow => return .result (← callProvider handle (.run workflow))
  | .cleanUp => return .result (← callProvider handle .cleanUp)
  | .read path => return .text (Session.textOfFile (← Act.look) path)

end ProviderStep

/-- Takes steps with a new provider. -/
def rehearseProvider (w : World) (steps : List ProviderStep) :
    Option (List ProviderFinding) × World :=
  Engine.rehearse (steps.mapM ProviderStep.take) { w with made := [.ownMachine {}] }

end BenchQueue.Rehearsal
