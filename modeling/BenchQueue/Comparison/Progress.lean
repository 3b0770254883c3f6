import BenchQueue.Comparison.Message
import BenchQueue.Effect
/-!
# Comparing a finished run with others

A comparison looks for finished runs of its targets, in rounds, until every target was found once.
Each target that was found is measured against the run, and a message is sent when something got
worse or a message is wanted in any case. The first failure ends the comparison; so does a true stop
signal, and so does the end of its time. A sender of the signal that is gone is only no longer
listened to.
-/

namespace BenchQueue.Comparison

/-- What a comparison is about. -/
structure Job where
  finished : Run.Identifier
  notifyAlways : Bool
  config : Config

/-- What a comparison that found all its targets reports. -/
structure Outcome where
  matched : Nat := 0
  notified : Nat := 0
  deriving DecidableEq, Repr, Inhabited

/-- A comparison between two rounds. The deadline has the time budget that it came from. -/
structure Progress where
  targets : List Run.Identifier
  matched : List Run.Identifier := []
  outcome : Outcome := {}
  deadline : Option (Instant × Duration) := none
  isListening : Bool := true
  seen : Nat := 0
  deriving Repr, Inhabited

namespace Progress

/-- The targets without repetitions, in the order of their first occurrence. -/
def distinct (targets : List Run.Identifier) : List Run.Identifier :=
  targets.foldl (fun kept t => if t ∈ kept then kept else kept ++ [t]) []

/-- Whether every target was found. -/
def isComplete (p : Progress) : Bool := p.targets.length ≤ p.matched.length

/-- The number of targets that were not found. -/
def unmatched (p : Progress) : Nat :=
  (p.targets.filter fun t => t ∉ p.matched).length

/-- The comparison at its start. It breaks down when the end of its time does not exist. -/
def start (c : Config) (targets : List Run.Identifier) (seen : Nat) : Task Progress := do
  let p : Progress := { targets := distinct targets, seen }
  match c.timeout with
  | none => pure p
  | some budget =>
    let now ← Task.instant
    match now.after? budget with
    | none => Task.panic
    | some deadline => pure { p with deadline := some (deadline, budget) }

/-- What a wait for the next round ends in. -/
inductive Woken
  | lookUp (progress : Progress)
  | again (progress : Progress)
  | cancelled

/-- Waits for the next round of lookups. -/
def wake (c : Config) (p : Progress) : Task Woken := do
  let now ← Task.instant
  let heard := if p.isListening then some p.seen else none
  match ← Task.ask (.wait (now.after? c.pollInterval) heard) with
  | .elapsed | .news .nothing => pure (.lookUp p)
  | .news .closed => pure (.again { p with isListening := false })
  | .news (.changed seen) =>
    let signal ← Task.ask .signal
    pure (if signal.value then .cancelled else .lookUp { p with seen })

/-- Sends the message about a pair if it is wanted; answers the number of messages sent. -/
def report (j : Job) (target : Run.Identifier) (summary : String) :
    Task (Except Notify.Error Nat) := do
  if summary ≠ "" ∨ j.notifyAlways then
    match ← Task.ask (.notify (message j.config.repositoryUrl j.finished target summary)) with
    | .ok () => pure (.ok 1)
    | .error e => pure (.error e)
  else pure (.ok 0)

/-- Looks for one target, and measures and reports it if it was found. -/
def lookUp (j : Job) (p : Progress) (target : Run.Identifier) : Task (Except Error Progress) := do
  match ← Task.findFinished (.forIdentifier target) with
  | .error e => pure (.error (.store e))
  | .ok none => pure (.ok p)
  | .ok (some _) =>
    match ← Task.ask (.measure j.finished.kind j.finished target) with
    | .error e => pure (.error (.measurement e))
    | .ok summary =>
      match ← report j target summary with
      | .error e => pure (.error (.notify e))
      | .ok sent =>
        pure (.ok { p with
          matched := p.matched ++ [target]
          outcome := ⟨p.outcome.matched + 1, p.outcome.notified + sent⟩ })

/-- Looks for those of some targets that were not found yet. -/
def lookUpAll (j : Job) (p : Progress) : List Run.Identifier → Task (Except Error Progress)
  | [] => pure (.ok p)
  | target :: rest => do
    if target ∈ p.matched then lookUpAll j p rest
    else
      match ← lookUp j p target with
      | .error e => pure (.error e)
      | .ok p => lookUpAll j p rest

/-- Ends a comparison that has not found all its targets when its time is over. -/
def checkDeadline (p : Progress) : Task (Except Error Progress) :=
  match p.deadline with
  | none => pure (.ok p)
  | some (deadline, budget) => do
    let now ← Task.instant
    if !p.isComplete && deadline.reached now then pure (.error (.timeout p.unmatched budget))
    else pure (.ok p)

/-- What a round ends in. -/
inductive Next
  | again (progress : Progress)
  | finished (result : Except Error Outcome)

/-- One round: waits, looks for the targets and checks the time. -/
def round (j : Job) (p : Progress) : Task Next := do
  if p.isComplete then return .finished (.ok p.outcome)
  let signal ← Task.ask .signal
  if signal.value then return .finished (.error .cancelled)
  match ← p.wake j.config with
  | .cancelled => pure (.finished (.error .cancelled))
  | .again p => pure (.again p)
  | .lookUp p =>
    match ← p.lookUpAll j p.targets with
    | .error e => pure (.finished (.error e))
    | .ok p =>
      match ← p.checkDeadline with
      | .error e => pure (.finished (.error e))
      | .ok p => pure (.again p)

end Progress

end BenchQueue.Comparison
