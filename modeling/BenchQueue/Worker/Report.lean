/-!
# Reports of failures

A failure of the worker is reported with what it was doing when the failure arose, from the
outermost task to the cause.
-/

namespace BenchQueue.Worker

/-- What failed, and the causes of that from the outermost one. -/
structure Report where
  text : String
  causes : List String := []
  deriving DecidableEq, Repr, Inhabited

namespace Report

/-- The texts of a report from the outermost one. -/
def chain (r : Report) : List String := r.text :: r.causes

/-- A report about a task whose failure is already reported. -/
def within (task : String) (r : Report) : Report := ⟨task, r.chain⟩

/-- One of several causes: they are numbered unless there is only one. -/
def causeLines (causes : List String) : List String :=
  match causes with
  | [cause] => ["    " ++ cause]
  | causes => causes.zipIdx.map fun (cause, i) => "    " ++ toString i ++ ": " ++ cause

/-- The lines in which a program that fails states a report. -/
def lines (r : Report) : List String :=
  ["Error: " ++ r.text] ++
    if r.causes.isEmpty then [] else ["", "Caused by:"] ++ causeLines r.causes

end Report

end BenchQueue.Worker
