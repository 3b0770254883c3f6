import BenchQueue.Scheduling.Execution
import BenchQueue.Scheduling.Submission
import Mathlib.Data.Multiset.Filter

/-!
# Interleavings of the tasks of a scheduler

Submissions, admissions, executions and the attempts of executions are tasks of their own, and any
of them may be the next to go on. A step of the system is one request of one task: the operations
of the queue are answered by the queue, everything else may be answered in any way. An attempt may
take any time and end in any way or not at all, and an execution may be given up at any point.
-/

namespace BenchQueue.Scheduling

/-- An attempt in progress. -/
structure Attempt where
  number : Nat
  identifier : Run.Identifier
  configPath : String
  deriving DecidableEq, Repr

/-- How far the task of an execution is: about to make a request, or waiting for an attempt. -/
inductive Work
  | running (rest : Task Outcome)
  | awaiting (attempt : Nat) (next : AttemptEnd → Task Outcome)

/-- The task that executes an element. -/
structure Execution where
  element : Element
  work : Work

/-- The execution after the end of an attempt, which concerns only the one that waits for it. -/
def Execution.resume (number : Nat) (ending : AttemptEnd) (x : Execution) : Execution :=
  match x.work with
  | .awaiting attempt next => if attempt = number then ⟨x.element, .running (next ending)⟩ else x
  | .running _ => x

/-- The queue with the tasks around it. `admitted` holds the elements that were handed out and are
not executed yet, `begun` counts the attempts. -/
structure System where
  queue : Queue := {}
  submissions : Multiset (Task (Except Store.Error Submission)) := 0
  admitted : Multiset Element := 0
  executions : Multiset Execution := 0
  attempts : Multiset Attempt := 0
  begun : Nat := 0

/-- Whether an effect leaves the queue, the executions and the attempts alone. -/
def isOutside : Effect → Bool
  | .panic | .enqueue _ _ | .dispatch _ | .release _ | .attempt _ _ | .beginExecution _ _
  | .hasExecutions | .awaitExecutions _ | .abortExecutions => false
  | _ => true

/-- The answers to an effect, with the queue before and after it. -/
inductive Answers : (effect : Effect) → Queue → effect.Answer → Queue → Prop
  | enqueue (defaultRetries : UInt32) (request : Request) (q : Queue) :
      Answers (.enqueue defaultRetries request) q (q.submit defaultRetries request).1
        (q.submit defaultRetries request).2
  | dispatch {limit : Nat} {q q' : Queue} {e : Element} (h : q.dispatch? limit = some (e, q')) :
      Answers (.dispatch limit) q (some e) q'
  | dispatchNone {limit : Nat} {q : Queue} (h : q.dispatch? limit = none) :
      Answers (.dispatch limit) q none q
  | release (identifier : Run.Identifier) (q : Queue) :
      Answers (.release identifier) q () (q.release identifier)
  | outside {effect : Effect} (h : isOutside effect = true) (answer : effect.Answer) (q : Queue) :
      Answers effect q answer q

/-- A task makes its next request and goes on with the answer. -/
inductive Performs {α : Type} :
    Task α → Queue → (effect : Effect) → effect.Answer → Task α → Queue → Prop
  | ask {effect : Effect} {next : effect.Answer → Task α} {q q' : Queue} {answer : effect.Answer}
      (h : Answers effect q answer q') :
      Performs (Flow.ask effect next) q effect answer (next answer) q'

/-- What can be seen of a step. -/
inductive Event
  | called (request : Request)
  | submitting (effect : Effect) (answer : effect.Answer)
  | dispatched (found : Option Element)
  | executionBegan (element : Element)
  | executing (element : Element) (effect : Effect) (answer : effect.Answer)
  | executionEnded (element : Element) (outcome : Outcome)
  | executionPanicked (element : Element)
  | executionAborted (element : Element)
  | attemptBegan (attempt : Attempt)
  | attemptEnded (attempt : Attempt) (ending : AttemptEnd)

/-- The request that was accepted in a step. -/
def Event.accepted? : Event → Option Request
  | .submitting (.enqueue _ request) .accepted => some request
  | _ => none

/-- The element that was handed out in a step. -/
def Event.dispatched? : Event → Option Element
  | .dispatched found => found
  | _ => none

/-- The element whose execution removed it in a step. -/
def Event.released? : Event → Option Element
  | .executing e (.release _) _ => some e
  | _ => none

/-- The requests that were accepted, in the order of acceptance. -/
def accepted (events : List Event) : List Request := events.filterMap Event.accepted?

/-- The elements that were handed out, in this order. -/
def dispatched (events : List Event) : List Element := events.filterMap Event.dispatched?

/-- The elements that were removed after their executions. -/
def released (events : List Event) : List Element := events.filterMap Event.released?

/-- What is accepted in one stretch and the next is accepted in both together. -/
theorem accepted_append (events more : List Event) :
    accepted (events ++ more) = accepted events ++ accepted more :=
  List.filterMap_append

/-- What is handed out in one stretch and the next is handed out in both together. -/
theorem dispatched_append (events more : List Event) :
    dispatched (events ++ more) = dispatched events ++ dispatched more :=
  List.filterMap_append

/-- One step of one task. Only elements that were handed out are executed, each at most once. -/
inductive Step (config : Config) (compares : Bool) : System → Event → System → Prop
  | call (s : System) (request : Request) :
      Step config compares s (.called request)
        { s with submissions := submit config request ::ₘ s.submissions }
  | submit {s : System} {task task' : Task (Except Store.Error Submission)}
      {others : Multiset (Task (Except Store.Error Submission))} {effect : Effect}
      {answer : effect.Answer} {queue : Queue} (htask : s.submissions = task ::ₘ others)
      (h : Performs task s.queue effect answer task' queue) :
      Step config compares s (.submitting effect answer)
        { s with queue, submissions := task' ::ₘ others }
  | dispatch {s : System} {effect : Effect} {answer : effect.Answer} {found : Option Element}
      {queue : Queue} (h : Performs (dispatchOne config) s.queue effect answer (Flow.done found) queue) :
      Step config compares s (.dispatched found)
        { s with queue, admitted := found.elim s.admitted (· ::ₘ s.admitted) }
  | begin {s : System} {e : Element} {others : Multiset Element} (seen : Nat)
      (helement : s.admitted = e ::ₘ others) :
      Step config compares s (.executionBegan e)
        { s with admitted := others,
                 executions := ⟨e, .running (execute config compares e seen)⟩ ::ₘ s.executions }
  | execute {s : System} {e : Element} {rest rest' : Task Outcome} {others : Multiset Execution}
      {effect : Effect} {answer : effect.Answer} {queue : Queue}
      (htask : s.executions = ⟨e, .running rest⟩ ::ₘ others)
      (h : Performs rest s.queue effect answer rest' queue) :
      Step config compares s (.executing e effect answer)
        { s with queue, executions := ⟨e, .running rest'⟩ ::ₘ others }
  | beginAttempt {s : System} {e : Element} {identifier : Run.Identifier} {configPath : String}
      {next : AttemptEnd → Task Outcome} {others : Multiset Execution}
      (htask : s.executions = ⟨e, .running (Flow.ask (.attempt identifier configPath) next)⟩ ::ₘ others) :
      Step config compares s (.attemptBegan ⟨s.begun, identifier, configPath⟩)
        { s with executions := ⟨e, .awaiting s.begun next⟩ ::ₘ others,
                 attempts := ⟨s.begun, identifier, configPath⟩ ::ₘ s.attempts,
                 begun := s.begun + 1 }
  | endAttempt {s : System} {a : Attempt} {others : Multiset Attempt} (ending : AttemptEnd)
      (hattempt : s.attempts = a ::ₘ others) :
      Step config compares s (.attemptEnded a ending)
        { s with attempts := others, executions := s.executions.map (·.resume a.number ending) }
  | finish {s : System} {e : Element} {outcome : Outcome} {others : Multiset Execution}
      (htask : s.executions = ⟨e, .running (Flow.done outcome)⟩ ::ₘ others) :
      Step config compares s (.executionEnded e outcome) { s with executions := others }
  | breakDown {s : System} {e : Element} {next : Empty → Task Outcome}
      {others : Multiset Execution}
      (htask : s.executions = ⟨e, .running (Flow.ask .panic next)⟩ ::ₘ others) :
      Step config compares s (.executionPanicked e) { s with executions := others }
  | abort {s : System} {x : Execution} {others : Multiset Execution}
      (htask : s.executions = x ::ₘ others) :
      Step config compares s (.executionAborted x.element) { s with executions := others }

/-- What can be seen of a run, and where it leads. A scheduler works with normalized settings. -/
inductive Reaches (config : Config) (compares : Bool) : List Event → System → Prop
  | start : Reaches config compares [] {}
  | step {events : List Event} {s t : System} {event : Event}
      (hrun : Reaches config compares events s)
      (hstep : Step config.normalized compares s event t) :
      Reaches config compares (events ++ [event]) t

end BenchQueue.Scheduling
