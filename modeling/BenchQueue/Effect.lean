import BenchQueue.Comparison.Error
import BenchQueue.Flow
import BenchQueue.Infra.Call
import BenchQueue.Machine.Command
import BenchQueue.Machine.Files
import BenchQueue.Run.Error
import BenchQueue.Scheduling.Queue
import BenchQueue.Signal
import BenchQueue.Store.Call
import BenchQueue.Time.Instant
/-!
# What the parts of the scheduler ask for

One signature holds everything that submissions, executions, runs and comparisons ask of their
surroundings: clocks, identities, the store of records, the three atomic operations of the queue,
tasks of their own, the stop signal, measurements, notifications, providers, files and programs.
-/

namespace BenchQueue

/-- What ended a wait. -/
inductive Wake
  | elapsed
  | news (news : Signal.News)
  deriving DecidableEq, Repr

/-- How an attempt ended that ran as a task of its own. -/
inductive AttemptEnd
  | returned (result : Except Run.Error Unit)
  | panicked

/-- Something that is asked of the surroundings.

* `wait limit seen` waits until an instant has come or there is news of the stop signal for a
  listener; a missing instant never comes, and without `seen` nobody listens.
* `draw` picks a number between -1 and 1 at random.
* `attempt` executes a run as a task of its own; if the one who waits for it is dropped, it goes on.
* `beginExecution` starts the execution of an element in the background, `awaitExecutions` waits for
  those begun by the one who asks and says whether all of them ended in time.
* `supervised` makes a call on a provider as a task of its own and gives it up at an instant.
* `panic` breaks down; it has no answer. -/
inductive Effect
  | wallClock
  | instant
  | wait (limit : Option Instant) (seen : Option Nat)
  | draw
  | newId
  | panic
  | store (call : Store.Call)
  | enqueue (defaultRetries : UInt32) (request : Scheduling.Request)
  | dispatch (limit : Nat)
  | release (identifier : Run.Identifier)
  | attempt (identifier : Run.Identifier) (configPath : String)
  | beginExecution (element : Scheduling.Element) (seen : Nat)
  | hasExecutions
  | awaitExecutions (limit : Option Instant)
  | abortExecutions
  | beginComparison (finished : Run.Identifier) (targets : List Run.Identifier)
      (notifyAlways : Bool) (seen : Nat)
  | signal
  | measure (kind : Run.Kind) (current target : Run.Identifier)
  | notify (text : String)
  | createProvider (config : Infra.Config)
  | provider (handle : Nat) (call : Infra.Call)
  | supervised (handle : Nat) (call : Infra.Call) (limit : Option Instant)
  | readFile (path : String)
  | isDirectory (path : String)
  | makeDirs (path : String)
  | writeFile (path text : String)
  | openLog (path : String)
  | appendLog (path text : String)
  | command (command : Machine.Command)

namespace Effect

/-- The kind of answer to a request. -/
@[reducible] def Answer : Effect → Type
  | .wallClock => Timestamp
  | .instant => Instant
  | .wait _ _ => Wake
  | .draw => Float
  | .newId => Uuid
  | .panic => Empty
  | .store call => call.Reply
  | .enqueue _ _ => Scheduling.Submission
  | .dispatch _ => Option Scheduling.Element
  | .release _ => Unit
  | .attempt _ _ => AttemptEnd
  | .beginExecution _ _ => Unit
  | .hasExecutions => Bool
  | .awaitExecutions _ => Bool
  | .abortExecutions => Unit
  | .beginComparison _ _ _ _ => Unit
  | .signal => Signal
  | .measure _ _ _ => Except Measurement.Error String
  | .notify _ => Except Notify.Error Unit
  | .createProvider _ => Except Infra.Error Nat
  | .provider _ call => call.Answer
  | .supervised _ call _ => Infra.Ended call.Answer
  | .readFile _ => Except Machine.Fault String
  | .isDirectory _ => Bool
  | .makeDirs _ => Except Machine.Fault Unit
  | .writeFile _ _ => Except Machine.Fault Unit
  | .openLog _ => Except Machine.Fault Unit
  | .appendLog _ _ => Unit
  | .command _ => Except Machine.Fault Machine.Finished

end Effect

/-- The signature of everything the scheduler asks for. -/
@[reducible] def Effects : Signature := ⟨Effect, Effect.Answer⟩

/-- A program of the scheduler. -/
abbrev Task (α : Type) := Flow Effects α

namespace Task

/-- Makes one request. -/
def ask (e : Effect) : Task e.Answer := Flow.ask e Flow.done

/-- The current time of day. -/
def wallClock : Task Timestamp := ask .wallClock

/-- The current instant. -/
def instant : Task Instant := ask .instant

/-- Breaks down. -/
def panic {α : Type} : Task α :=
  Flow.ask Effect.panic fun (impossible : Empty) => nomatch impossible

/-- Waits for a duration; one whose end does not exist is waited for forever. -/
def sleep (d : Duration) : Task Unit := do
  let now ← instant
  let _ ← ask (.wait (now.after? d) none)
  pure ()

/-- Asks the store. -/
def store (call : Store.Call) : Task call.Reply := ask (.store call)

/-- Whether there is a record with a status that a filter accepts. -/
def recordExists (filter : Run.Filter) (status : Run.Status) : Task (Except Store.Error Bool) :=
  store (.exists_ filter status)

/-- The most recent finished record that a filter accepts. -/
def findFinished (filter : Run.Filter) : Task (Except Store.Error (Option Run.Record)) :=
  store (.findFinished filter)

/-- Adds a record. -/
def insertRecord (record : Run.Record) : Task (Except Store.Error Unit) :=
  store (.insert record)

/-- Changes the status of a record. -/
def updateStatus (id : Uuid) (status : Run.Status) (at_ : Timestamp) :
    Task (Except Store.Error Unit) :=
  store (.updateStatus id status at_)

end Task

end BenchQueue
