/-!
# The stop signal

A channel that holds one truth value: true asks everyone to stop. Every value that is sent counts
as a change, also when it is the value that was there before. A listener remembers which change it
has seen last; a change that it has not seen is reported even if the sender is gone.
-/

namespace BenchQueue

/-- The value, the number of changes so far, and whether there may be more. -/
structure Signal where
  value : Bool := false
  changes : Nat := 0
  isOpen : Bool := true
  deriving DecidableEq, Repr, Inhabited

/-- What a listener learns that has seen a number of changes. -/
inductive Signal.News
  | nothing
  | changed (seen : Nat)
  | closed
  deriving DecidableEq, Repr

namespace Signal

/-- Sends a value. -/
def send (s : Signal) (value : Bool) : Signal :=
  { s with value, changes := s.changes + 1 }

/-- Gives up sending. -/
def close (s : Signal) : Signal := { s with isOpen := false }

/-- The news for a listener. -/
def news (s : Signal) (seen : Nat) : News :=
  if seen ≠ s.changes then .changed s.changes else if s.isOpen then .nothing else .closed

end Signal

end BenchQueue
