import BenchQueue.Run.Lifecycle
/-!
# Calls on a run

The calls that the owner of a run may make on it, in any order and as often as wanted. A call
answers whether it succeeded; whatever it answers, the next one may follow.
-/

namespace BenchQueue.Run

/-- A call on a run. To conclude a run is to flush the logs that it has opened, which changes nothing
of the run; that an open log cannot be written is left out, here as in all other calls. -/
inductive OwnerCall
  | prepare
  | openOutputs
  | execute (deadline : Duration)
  | cleanUp
  | conclude
  deriving DecidableEq, Repr

namespace State

/-- Makes a call. -/
def call (s : State) : OwnerCall → Task (Except Error Unit × State)
  | .prepare => s.prepare
  | .openOutputs => s.openOutputs
  | .execute deadline => s.execute deadline
  | .cleanUp => do return (← s.cleanUp, s)
  | .conclude => pure (.ok (), s)

/-- Makes calls in turn. -/
def callAll (s : State) : List OwnerCall → Task State
  | [] => pure s
  | c :: rest => do
    let (_, s) ← s.call c
    s.callAll rest

end State

end BenchQueue.Run
