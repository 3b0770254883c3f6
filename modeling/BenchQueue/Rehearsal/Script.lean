import BenchQueue.Infra.Call
import BenchQueue.Measurement.Error
import BenchQueue.Members
import BenchQueue.Run.Identifier
/-!
# What is played

In a rehearsal the collaborators of the scheduler are played from scripts: the attempts at a run,
the providers of machines, the measurements and the notifier. A script also says which requests the
store refuses.
-/

namespace BenchQueue.Rehearsal

/-- What a played attempt ends in. An attempt that records adds a finished record to the store. -/
inductive AttemptEnding
  | ok
  | fail
  | panic
  | record
  deriving DecidableEq, Repr, Inhabited

/-- A played attempt: how long it takes and what it ends in. -/
structure PlayedAttempt where
  millis : Nat := 0
  ending : AttemptEnding := .ok
  deriving DecidableEq, Repr, Inhabited

/-- Played attempts for each name; a star stands for all names without attempts of their own. -/
abbrev AttemptScript := Members (List PlayedAttempt)

/-- The entry of a script for a name. -/
def scriptFor? {α : Type} (script : Members α) (name : String) : Option α :=
  (script.find? name).orElse fun _ => script.find? "*"

/-- The item with a number counted from one; the last one repeats. -/
def nthOrLast? {α : Type} (list : List α) (number : Nat) : Option α :=
  (list[number - 1]?).orElse fun _ => list.getLast?

/-- The attempt with a number at a run with a name. -/
def playedAttempt (script : AttemptScript) (name : String) (number : Nat) : PlayedAttempt :=
  ((scriptFor? script name).bind (nthOrLast? · number)).getD {}

/-- A played call on a provider: how long it takes and how it ends. -/
structure PlayedCall where
  millis : Nat := 0
  panics : Bool := false
  failure : Option Infra.Error := none
  hosts : List String := ["10.0.0.1"]
  deriving Repr

instance : Inhabited PlayedCall := ⟨{}⟩

/-- A played provider. -/
structure ProviderScript where
  creation : Option Infra.Error := none
  prepare : PlayedCall := {}
  provision : PlayedCall := {}
  run : PlayedCall := {}
  cleanUp : PlayedCall := {}

instance : Inhabited ProviderScript := ⟨{}⟩

/-- The summary of a measurement against a commit or its failure; nothing means that there is no
result. -/
abbrev PlayedMeasurement := Option (Except Measurement.Error String)

/-- The refusals of a played notifier: which of the messages, and with which answer. -/
structure Refusals where
  numbers : List Nat := []
  status : Nat := 500
  message : String := ""
  deriving DecidableEq, Repr, Inhabited

/-- Requests of a kind that the store refuses: how many it answers before, and how many it refuses.
-/
structure StoreFault where
  call : String
  skip : Nat := 0
  times : Nat := 1
  deriving DecidableEq, Repr, Inhabited

/-- Whether the store refuses a request of a kind, and the refusals that are left. The first refusal
of that kind that is not used up decides. -/
def refusal (call : String) : List StoreFault → Bool × List StoreFault
  | [] => (false, [])
  | f :: rest =>
    if f.call = call ∧ 0 < f.times then
      if 0 < f.skip then (false, { f with skip := f.skip - 1 } :: rest)
      else (true, { f with times := f.times - 1 } :: rest)
    else
      let (refused, rest) := refusal call rest
      (refused, f :: rest)

end BenchQueue.Rehearsal
