import BenchQueue.Proofs.Run.Contact
import Mathlib.Logic.Function.Basic

/-!
# Tasks around a provider

An execution makes some calls on its provider itself and has the supervised ones made by tasks of
their own, which it gives up when the deadline passes. All calls but the first ones are made with
the lock of the provider. A task that was given up goes on to the next point at which it waits, and
is dropped there. Any number of executions, each with its tasks, go on in any order.
-/

namespace BenchQueue.Run

open BenchQueue.Infra (Call Ended)

/-- How far the task of a supervised call is: it has not got the lock yet, it works in the call, it
waits in the call, or it is settled how it ended. -/
inductive Progress (call : Call)
  | waiting
  | working
  | suspended
  | settled (ended : Ended call.Answer)

/-- What can be seen of a call on a provider: that it began, and that it ended or was dropped. -/
inductive CallEvent
  | began (handle : Nat) (call : Call)
  | ended (handle : Nat) (called : Called)

/-- The provider of a call that was seen. -/
def CallEvent.handle : CallEvent → Nat
  | .began handle _ | .ended handle _ => handle

/-- One step of the task of a supervised call, with the lock of the provider before and after it. A
task that was given up neither gets the lock nor goes on where it waits: there it is dropped. -/
inductive Polled (handle : Nat) {call : Call} (givenUp : Bool) :
    Progress call → Bool → Option CallEvent → Progress call → Bool → Prop
  | enter (hkept : givenUp = false) :
      Polled handle givenUp .waiting false (some (.began handle call)) .working true
  | suspend (locked : Bool) : Polled handle givenUp .working locked none .suspended locked
  | proceed (hkept : givenUp = false) (locked : Bool) :
      Polled handle givenUp .suspended locked none .working locked
  | returned (answer : call.Answer) (locked : Bool) :
      Polled handle givenUp .working locked (some (.ended handle ⟨call, .returned answer⟩))
        (.settled (.returned answer)) false
  | panicked (locked : Bool) :
      Polled handle givenUp .working locked (some (.ended handle ⟨call, .panicked⟩))
        (.settled .panicked) false
  | dropped (hgivenUp : givenUp = true) (locked : Bool) :
      Polled handle givenUp .suspended locked (some (.ended handle ⟨call, .expired⟩))
        (.settled .expired) false
  | neverBegan (hgivenUp : givenUp = true) (locked : Bool) :
      Polled handle givenUp .waiting locked none (.settled .expired) locked

/-- The task of a call that was given up. -/
structure Leftover where
  handle : Nat
  call : Call
  progress : Progress call

/-- How far an execution is: about to make a request, in a call that it makes itself, or waiting for
the task of a supervised call. -/
inductive Main
  | running (rest : Task (Except Error Unit))
  | calling (handle : Nat) (call : Call) (next : call.Answer → Task (Except Error Unit))
  | awaiting (handle : Nat) (call : Call) (progress : Progress call)
      (next : Ended call.Answer → Task (Except Error Unit))

/-- An execution with the tasks that it has given up, its provider, and whether the lock of this is
taken. -/
structure Activity where
  main : Main
  leftovers : List Leftover := []
  provider : Option Nat := none
  locked : Bool := false

/-- One step of an execution or of one of its tasks. A new provider is none that is taken. The
deadline may pass at any moment. -/
inductive Activity.Step (taken : Nat → Prop) (a : Activity) : Option CallEvent → Activity → Prop
  | answer {effect : Effect} {next : effect.Answer → Task (Except Error Unit)}
      (answer : effect.Answer) (hmain : a.main = .running (Flow.ask effect next))
      (heffect : isContact effect = false) :
      Step taken a none { a with main := .running (next answer) }
  | create {config : Infra.Config} {next : Except Infra.Error Nat → Task (Except Error Unit)}
      (handle : Nat) (hmain : a.main = .running (Flow.ask (.createProvider config) next))
      (hfresh : ¬ taken handle) :
      Step taken a none { a with main := .running (next (.ok handle)), provider := some handle }
  | refuse {config : Infra.Config} {next : Except Infra.Error Nat → Task (Except Error Unit)}
      (e : Infra.Error) (hmain : a.main = .running (Flow.ask (.createProvider config) next)) :
      Step taken a none { a with main := .running (next (.error e)) }
  | begin {handle : Nat} {call : Call} {next : call.Answer → Task (Except Error Unit)}
      (hmain : a.main = .running (Flow.ask (.provider handle call) next))
      (hlock : call.isExclusive = true → a.locked = false) :
      Step taken a (some (.began handle call))
        { a with main := .calling handle call next, locked := a.locked || call.isExclusive }
  | finish {handle : Nat} {call : Call} {next : call.Answer → Task (Except Error Unit)}
      (answer : call.Answer) (hmain : a.main = .calling handle call next) :
      Step taken a (some (.ended handle ⟨call, .returned answer⟩))
        { a with main := .running (next answer), locked := a.locked && !call.isExclusive }
  | spawn {handle : Nat} {call : Call} {limit : Option Instant}
      {next : Ended call.Answer → Task (Except Error Unit)}
      (hmain : a.main = .running (Flow.ask (.supervised handle call limit) next)) :
      Step taken a none { a with main := .awaiting handle call .waiting next }
  | poll {handle : Nat} {call : Call} {progress progress' : Progress call}
      {next : Ended call.Answer → Task (Except Error Unit)} {event : Option CallEvent}
      {locked : Bool} (hmain : a.main = .awaiting handle call progress next)
      (hpolled : Polled handle false progress a.locked event progress' locked) :
      Step taken a event { a with main := .awaiting handle call progress' next, locked }
  | resume {handle : Nat} {call : Call} {ended : Ended call.Answer}
      {next : Ended call.Answer → Task (Except Error Unit)}
      (hmain : a.main = .awaiting handle call (.settled ended) next) :
      Step taken a none { a with main := .running (next ended) }
  | expire {handle : Nat} {call : Call} {progress : Progress call}
      {next : Ended call.Answer → Task (Except Error Unit)}
      (hmain : a.main = .awaiting handle call progress next) :
      Step taken a none
        { a with main := .running (next .expired),
                 leftovers := ⟨handle, call, progress⟩ :: a.leftovers }
  | pollLeftover {handle : Nat} {call : Call} {progress progress' : Progress call}
      {before after : List Leftover} {event : Option CallEvent} {locked : Bool}
      (hleftover : a.leftovers = before ++ ⟨handle, call, progress⟩ :: after)
      (hpolled : Polled handle true progress a.locked event progress' locked) :
      Step taken a event { a with leftovers := before ++ ⟨handle, call, progress'⟩ :: after, locked }

/-- What an execution is about. -/
structure Job where
  deadline : Duration
  identifier : Identifier
  configPath : String

/-- An execution before its first request. -/
def Job.start (job : Job) : Activity :=
  { main := .running (executeFile job.deadline job.identifier job.configPath) }

variable {ι : Type} [DecidableEq ι]

/-- What can be seen of the calls of some executions, and where they lead. In each step one of the
executions goes on; a new provider is none that an execution has. -/
inductive Concurrently (jobs : ι → Job) : List (ι × CallEvent) → (ι → Activity) → Prop
  | start : Concurrently jobs [] fun i => (jobs i).start
  | step {events : List (ι × CallEvent)} {w : ι → Activity} {event : Option CallEvent} {a : Activity}
      (hrun : Concurrently jobs events w) (i : ι)
      (hstep : (w i).Step (fun handle => ∃ j, (w j).provider = some handle) event a) :
      Concurrently jobs (events ++ event.toList.map (i, ·)) (Function.update w i a)

/-- The calls of one of the executions. -/
def trace (i : ι) (events : List (ι × CallEvent)) : List CallEvent :=
  events.filterMap fun x => if x.1 = i then some x.2 else none

/-- The call that began. -/
def CallEvent.began? : CallEvent → Option Call
  | .began _ call => some call
  | .ended _ _ => none

/-- The call that ended or was dropped. -/
def CallEvent.ended? : CallEvent → Option Call
  | .began _ _ => none
  | .ended _ called => some called.1

/-- The calls that have begun, in this order. -/
def begun (trace : List CallEvent) : List Call := trace.filterMap CallEvent.began?

/-- The calls that have ended, in this order. -/
def finished (trace : List CallEvent) : List Call := trace.filterMap CallEvent.ended?

/-- The call that a task is in. -/
def Progress.inside {call : Call} : Progress call → List Call
  | .working | .suspended => [call]
  | .waiting | .settled _ => []

/-- The call that an execution is in, itself or with the task that it waits for. -/
def Main.inside : Main → List Call
  | .running _ => []
  | .calling _ call _ => [call]
  | .awaiting _ _ progress _ => progress.inside

/-- The calls in progress. -/
def Activity.inside (a : Activity) : List Call :=
  a.main.inside ++ a.leftovers.flatMap (·.progress.inside)

end BenchQueue.Run
