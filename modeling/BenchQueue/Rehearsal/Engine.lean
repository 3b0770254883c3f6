import BenchQueue.Rehearsal.Work
/-!
# Running tasks

One task is the main one; it starts the others. Tasks run one at a time, each until it waits. The
main task goes first, the others follow in the order in which they became ready, and the clock moves
only when all of them wait: to the first instant that one of them waits for, rounded up to a whole
millisecond.
-/

namespace BenchQueue.Rehearsal

/-- A task that has not ended, with the rest of its round. -/
structure Running where
  id : TaskId
  rest : Act Round

/-- The world with its tasks. -/
structure Engine where
  world : World
  tasks : List Running := []
  ready : List TaskId := []
  endings : List (TaskId × Ending) := []
  nextTask : TaskId := 1

/-- What a task does when it stops running. -/
inductive Stop (α : Type)
  | waits (wait : Wait) (rest : Act α)
  | finished (result : α)
  | panicked

namespace Engine

/-- The number of the main task. -/
def mainTask : TaskId := 0

/-- How a task ended, if it has. -/
def ending? (e : Engine) (task : TaskId) : Option Ending :=
  (e.endings.find? (·.1 = task)).map (·.2)

/-- Whether all of some tasks have ended. -/
def haveEnded (e : Engine) (tasks : List TaskId) : Bool :=
  tasks.all fun t => (e.ending? t).isSome

/-- Why a wait is over, if it is. The end of tasks counts before news, and news before time. -/
def reason? (e : Engine) (w : Wait) : Option Reason :=
  if w.tasks.any e.haveEnded then some .ended
  else
    match w.seen.map e.world.signal.news with
    | some (.changed seen) => some (.news (.changed seen))
    | some .closed => some (.news .closed)
    | _ => if w.limit.any (·.reached e.world.now) then some .elapsed else none

/-- Starts a task. -/
def start (e : Engine) (job : Job) : TaskId × Engine :=
  (e.nextTask,
    { e with
      tasks := e.tasks ++ [⟨e.nextTask, job.round e.nextTask⟩]
      ready := e.ready ++ [e.nextTask]
      nextTask := e.nextTask + 1 })

/-- Ends a task. -/
def finish (e : Engine) (task : TaskId) (ending : Ending) : Engine :=
  { e with
    tasks := e.tasks.filter (·.id ≠ task)
    ready := e.ready.filter (· ≠ task)
    endings := e.endings ++ [(task, ending)] }

/-- Gives a task up, unless it has ended. -/
def giveUp (e : Engine) (task : TaskId) : Engine :=
  if (e.ending? task).isSome then e else e.finish task .givenUp

/-- Runs a part of a task until it waits or is over. -/
def runUntilWait {α : Type} : Act α → Engine → Stop α × Engine
  | .done a, e => (.finished a, e)
  | .ask .look next, e => runUntilWait (next e.world) e
  | .ask (.change world) next, e => runUntilWait (next ()) { e with world }
  | .ask (.wait w) next, e =>
    match e.reason? w with
    | some reason => runUntilWait (next reason) e
    | none => (.waits w (.ask (.wait w) next), e)
  | .ask (.start job) next, e =>
    let (task, e) := e.start job
    runUntilWait (next task) e
  | .ask (.ending task) next, e => runUntilWait (next (e.ending? task)) e
  | .ask (.giveUp task) next, e => runUntilWait (next ()) (e.giveUp task)
  | .ask .panic _, e => (.panicked, e)

/-- The wait that a task is in, if it is in one. -/
def waitOf? {α : Type} : Act α → Option Wait
  | .ask (.wait w) _ => some w
  | _ => none

/-- Whether a task that waits may go on. -/
def mayGoOn (e : Engine) (t : Running) : Bool :=
  !e.ready.contains t.id && (waitOf? t.rest).any fun w => (e.reason? w).isSome

/-- Makes the tasks ready whose waits are over. -/
def wake (e : Engine) : Engine :=
  { e with ready := e.ready ++ (e.tasks.filter e.mayGoOn).map (·.id) }

/-- Keeps the rest of a task. -/
def keep (e : Engine) (task : TaskId) (rest : Act Round) : Engine :=
  { e with tasks := e.tasks.map fun t => if t.id = task then { t with rest } else t }

/-- Runs a task that is ready until it waits or has ended. A task that has finished a round goes to
the end of the line. -/
def runTask (e : Engine) (t : Running) : Engine :=
  match runUntilWait t.rest e with
  | (.waits _ rest, e) => e.keep t.id rest
  | (.finished (.again job), e) =>
    { e.keep t.id (job.round t.id) with ready := e.ready ++ [t.id] }
  | (.finished (.finished product), e) => e.finish t.id (.returned product)
  | (.panicked, e) => e.finish t.id .panicked

/-- Runs the tasks that are ready until none is. -/
def settle : (fuel : Nat) → Engine → Engine
  | 0, e => e
  | fuel + 1, e =>
    let e := e.wake
    match e.ready with
    | [] => e
    | id :: ready =>
      let e := { e with ready }
      match e.tasks.find? (·.id = id) with
      | none => settle fuel e
      | some t => settle fuel (e.runTask t)

/-- The first instant that a task waits for. -/
def nextInstant? (e : Engine) (main : Wait) : Option Instant :=
  (e.tasks.filterMap fun t => (waitOf? t.rest).bind (·.limit)).foldl
    (fun first limit => Act.earlier first (some limit)) main.limit

/-- Moves the clock. -/
def moveClock (e : Engine) (instant : Instant) : Engine :=
  { e with world := { e.world with now := instant.ceilMilli } }

/-- Runs the main task to its end, and the others as far as they get in that time. There is no
result when the main task breaks down, waits for something that never comes, or needs too many
steps. -/
def play {α : Type} : (fuel : Nat) → Act α → Engine → Option α × Engine
  | 0, _, e => (none, e)
  | fuel + 1, main, e =>
    match runUntilWait main e with
    | (.finished a, e) => (some a, e)
    | (.panicked, e) => (none, e)
    | (.waits w rest, e) =>
      let e := e.settle (fuel + 1)
      if (e.reason? w).isSome then play fuel rest e
      else
        match e.nextInstant? w with
        | none => (none, e)
        | some instant => play fuel rest (e.moveClock instant)

/-- The number of steps that a rehearsal may take. -/
def maxSteps : Nat := 2000000

/-- Runs a main task in a world and answers its result and the world after it. -/
def rehearse {α : Type} (main : Act α) (world : World) : Option α × World :=
  let (result, e) := play maxSteps main { world }
  (result, e.world)

end Engine

end BenchQueue.Rehearsal
