import BenchQueue.Effect
import BenchQueue.Scheduling.Config
/-!
# Executing an element

The attempts of an element are made one after the other, each behind the wait that the retry policy
asks for, until one succeeds or the budget is used up. Then the element is removed from the queue,
and its slot is given back in the same step. A successful element is compared with others if it
names some.
-/

namespace BenchQueue.Scheduling

/-- How the execution of an element ended, with the number of attempts made. -/
inductive Outcome
  | succeeded (attempts : Nat)
  | exhausted (attempts : Nat)
  deriving DecidableEq, Repr

/-- The wait before an attempt. A policy without a delay for it breaks the execution down. -/
def waitBefore (p : RetryPolicy) (attempt : UInt32) : Task Unit := do
  let offset ← if 0.0 < p.jitter then Task.ask .draw else pure 0.0
  match p.delay? (fun bound => bound * offset) attempt with
  | none => Task.panic
  | some delay => if delay.isZero then pure () else Task.sleep delay

/-- Makes attempts up to a budget; `number` is the number of the first of them. -/
def attempts (p : RetryPolicy) (e : Element) (budget : Nat) : (remaining : Nat) → Task Outcome
  | 0 => pure (.exhausted budget)
  | remaining + 1 => do
    let number := budget - remaining
    waitBefore p (UInt32.ofNat number)
    match ← Task.ask (.attempt e.identifier e.configPath) with
    | .returned (.ok ()) => pure (.succeeded number)
    | .returned (.error _) | .panicked => attempts p e budget remaining

/-- Starts the comparison of a successful element, if comparisons are made and it names targets. -/
def startComparison (compares : Bool) (e : Element) (seen : Nat) : Task Unit :=
  if compares && !e.compareWith.isEmpty then
    Task.ask (.beginComparison e.identifier e.compareWith e.notifyAlways seen)
  else pure ()

/-- Makes the attempts of an element and releases it. `seen` is what the execution has seen of the
stop signal. -/
def execute (c : Config) (compares : Bool) (e : Element) (seen : Nat) : Task Outcome := do
  let budget := e.maxAttempts.toNat
  let outcome ← attempts c.retryPolicy e budget budget
  match outcome with
  | .succeeded _ => startComparison compares e seen
  | .exhausted _ => pure ()
  Task.ask (.release e.identifier)
  pure outcome

end BenchQueue.Scheduling
