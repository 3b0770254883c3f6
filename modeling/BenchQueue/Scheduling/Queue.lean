import BenchQueue.Run.Identifier
/-!
# The execution queue

The queue holds the elements that wait and those that execute, at most one for an identifier. It
counts the slots taken by executing elements and numbers the elements in the order in which they
were accepted. Its three operations are atomic: accepting a request, handing out the oldest waiting
element, and removing an element together with its slot.
-/

namespace BenchQueue.Scheduling

/-- A request to run a benchmark. -/
structure Request where
  identifier : Run.Identifier
  configPath : String
  retry : Option UInt32 := none
  notifyAlways : Bool := false
  compareWith : List Run.Identifier := []
  deriving DecidableEq, Repr, Inhabited

namespace Request

/-- A request as an object. -/
def toJson (r : Request) : Json :=
  .obj [("identifier", r.identifier.toJson), ("config_path", .str r.configPath),
    ("retry", Json.ofOption (fun n => .int n.toNat) r.retry),
    ("notify_always", .bool r.notifyAlways),
    ("compare_with", .arr (r.compareWith.map Run.Identifier.toJson))]

/-- Reads a request; all but the identifier and the configuration file may be left out. -/
def ofJson? (json : Json) : Option Request := do
  let r ← json.record? ["identifier", "config_path", "retry", "notify_always", "compare_with"]
  let identifier ← r.required "identifier" Run.Identifier.ofJson?
  let configPath ← r.required "config_path" Json.str?
  let retry ← r.optional "retry" Json.uint32?
  let notifyAlways ← r.defaulted "notify_always" false Json.bool?
  let compareWith ← r.defaulted "compare_with" [] (Json.listOf Run.Identifier.ofJson?)
  pure { identifier, configPath, retry, notifyAlways, compareWith }

end Request

/-- Why a request was not accepted. -/
inductive Duplicate
  | queued
  | alreadyFinished
  deriving DecidableEq, Repr

/-- What became of a request. -/
inductive Submission
  | accepted
  | duplicate (reason : Duplicate)
  deriving DecidableEq, Repr

/-- A waiting or executing unit of work. `retry` is the number of attempts after the first one. -/
structure Element where
  identifier : Run.Identifier
  configPath : String
  retry : UInt32
  executing : Bool
  notifyAlways : Bool
  compareWith : List Run.Identifier
  serial : Nat
  deriving DecidableEq, Repr, Inhabited

/-- The number of attempts an element may use; the greatest retry budget is not exceeded. -/
def Element.maxAttempts (e : Element) : UInt32 :=
  if e.retry = 0xFFFFFFFF then e.retry else e.retry + 1

/-- The elements, the number of slots taken and the next serial number. An element is found by its
identifier, and no key is kept beside it: it is added under its own identifier, which no operation
changes, so a key could never differ from it. -/
structure Queue where
  elements : List Element := []
  inFlight : Nat := 0
  nextSerial : Nat := 0
  deriving Repr, Inhabited

namespace Queue

/-- The element with an identifier. -/
def find? (q : Queue) (i : Run.Identifier) : Option Element :=
  q.elements.find? (·.identifier = i)

/-- Whether an element with an identifier waits or executes. -/
def contains (q : Queue) (i : Run.Identifier) : Bool :=
  q.elements.any (·.identifier = i)

/-- The number of elements. -/
def size (q : Queue) : Nat := q.elements.length

/-- The element that a request asks for. -/
def elementOf (q : Queue) (defaultRetries : UInt32) (r : Request) : Element :=
  { identifier := r.identifier
    configPath := r.configPath
    retry := r.retry.getD defaultRetries
    executing := false
    notifyAlways := r.notifyAlways
    compareWith := r.compareWith
    serial := q.nextSerial }

/-- Accepts a request unless an element with its identifier is there. -/
def submit (q : Queue) (defaultRetries : UInt32) (r : Request) : Submission × Queue :=
  if q.contains r.identifier then (.duplicate .queued, q)
  else
    (.accepted, { q with elements := q.elements ++ [q.elementOf defaultRetries r],
                         nextSerial := q.nextSerial + 1 })

/-- The waiting elements. -/
def pending (q : Queue) : List Element := q.elements.filter (!·.executing)

/-- The one of two elements that was accepted first. -/
def older (a b : Element) : Element := if b.serial < a.serial then b else a

/-- The waiting element that was accepted first. -/
def oldestPending? (q : Queue) : Option Element :=
  match q.pending with
  | [] => none
  | e :: rest => some (rest.foldl older e)

/-- Marks the element with an identifier as executing. -/
def markExecuting (i : Run.Identifier) (e : Element) : Element :=
  if e.identifier = i then { e with executing := true } else e

/-- Hands out the oldest waiting element if fewer than `limit` slots are taken; the element is
marked as executing and takes a slot. -/
def dispatch? (q : Queue) (limit : Nat) : Option (Element × Queue) :=
  if limit ≤ q.inFlight then none
  else
    q.oldestPending?.map fun e =>
      ({ e with executing := true },
        { q with
          elements := q.elements.map (markExecuting e.identifier)
          inFlight := q.inFlight + 1 })

/-- Removes the element with an identifier and gives its slot back. -/
def release (q : Queue) (i : Run.Identifier) : Queue :=
  { q with elements := q.elements.filter (·.identifier ≠ i), inFlight := q.inFlight - 1 }

end Queue

end BenchQueue.Scheduling
