import BenchQueue.Effect
import BenchQueue.Text.Blank
import BenchQueue.Worker.Report
/-!
# The benchmarked repository

The worker keeps a clone of the repository whose head it benchmarks. Synchronizing makes the clone
if it is missing, fetches, and resets it to the branch of the remote.
-/

namespace BenchQueue.Worker

/-- Where the clone lies, what it is a clone of, and the branch that is followed. -/
structure Source where
  dir : String
  remote : String
  branch : String
  deriving DecidableEq, Repr, Inhabited

namespace Source

/-- The name of the directory around a directory; the root has none. -/
def parent? (dir : String) : Option String :=
  let trimmed := dir.toList.reverse.dropWhile (· == '/')
  if trimmed.isEmpty then none
  else
    let rest := trimmed.dropWhile (· != '/')
    let kept := rest.dropWhile (· == '/')
    some (if kept.isEmpty then (if rest.isEmpty then "" else "/") else String.ofList kept.reverse)

/-- What a failed command reports. -/
def commandFailure (line : String) (f : Machine.Finished) : Report :=
  ⟨line ++ " exited with " ++ f.status.text ++ ": " ++ Text.trim f.diagnostics, []⟩

/-- Runs a git command in a directory and answers its output. -/
def git (dir : Option String) (arguments : List String) : Task (Except Report String) := do
  let line := "git " ++ " ".intercalate arguments
  match ← Task.ask (.command { program := "git", arguments, workingDir := dir,
                               stdout := .captured, stderr := .captured }) with
  | .error fault => pure (.error ⟨"Failed to run " ++ line, [fault.text]⟩)
  | .ok f => pure (if f.status.isSuccess then .ok f.output else .error (commandFailure line f))

/-- Runs git commands until one fails. -/
def gitAll (dir : Option String) : List (List String) → Task (Except Report Unit)
  | [] => pure (.ok ())
  | arguments :: rest => do
    match ← git dir arguments with
    | .error e => pure (.error e)
    | .ok _ => gitAll dir rest

/-- Makes the clone, and the directory around it. -/
def clone (s : Source) : Task (Except Report Unit) := do
  let around : Except Report Unit ← match parent? s.dir with
    | none => pure (.ok ())
    | some parent => do
      match ← Task.ask (.makeDirs parent) with
      | .error fault => pure (.error ⟨"Failed to create " ++ parent, [fault.text]⟩)
      | .ok () => pure (.ok ())
  match around with
  | .error e => pure (.error e)
  | .ok () => gitAll none [["clone", s.remote, s.dir]]

/-- Brings the clone to the head of the branch. -/
def sync (s : Source) : Task (Except Report Unit) := do
  let present ← Task.ask (.isDirectory (Machine.joinNames s.dir ".git"))
  let cloned ← if present then pure (.ok ()) else s.clone
  match cloned with
  | .error e => pure (.error e)
  | .ok () =>
    gitAll (some s.dir) [["fetch", "origin", "--tags"], ["reset", "--hard", "origin/" ++ s.branch]]

/-- The commit that is checked out. -/
def head (s : Source) : Task (Except Report String) := do
  let output ← git (some s.dir) ["rev-parse", "HEAD"]
  pure (output.map Text.trim)

end Source

end BenchQueue.Worker
