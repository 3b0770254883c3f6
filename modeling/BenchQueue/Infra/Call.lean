import BenchQueue.Infra.Config
import BenchQueue.Uuid
/-!
# Requests to a provider

The calls that a run makes on its provider of machines. Three of them only hand over settings and
cannot fail.
-/

namespace BenchQueue.Infra

/-- A call on a provider. -/
inductive Call
  | setConfig (config : Config)
  | setExecUuid (id : Uuid)
  | setTags (tags : Members String)
  | prepare
  | provision
  | run (workflow : Workflow)
  | cleanUp

/-- What a call answers; provisioning answers the addresses of the machines. -/
def Call.Answer : Call → Type
  | .setConfig _ | .setExecUuid _ | .setTags _ => Unit
  | .prepare | .run _ | .cleanUp => Except Error Unit
  | .provision => Except Error (List String)

/-- How a supervised call ended: with an answer, by breaking down, or because its time was over. -/
inductive Ended (α : Type)
  | returned (answer : α)
  | panicked
  | expired

end BenchQueue.Infra
