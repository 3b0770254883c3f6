/-!
# Shell scripts

The shell language as far as workflow scripts use it: simple commands with redirections, lists,
pipelines, loops, conditionals, choices and functions. A word is kept as parts that are expanded
when the command runs.
-/

namespace BenchQueue.Machine

/-- What stands in a word for a parameter. Where a flag `orEmpty` is set, a parameter that is empty
counts as one that is not set. -/
inductive ParameterUse
  | value
  | length
  | otherwise (orEmpty : Bool)
  | assigned (orEmpty : Bool)
  | instead (orEmpty : Bool)
  | required (orEmpty : Bool)
  | withoutStart (longest : Bool)
  | withoutEnd (longest : Bool)
  deriving DecidableEq, Repr

/-- A part of a word. What stands between double quotes is not split into words. -/
inductive WordPart
  | text (s : String) (quoted : Bool)
  | parameter (name : String) (use : ParameterUse) (argument : String) (quoted : Bool)
  | output (script : String) (quoted : Bool)
  | arithmetic (expression : String) (quoted : Bool)
  deriving DecidableEq, Repr

/-- A word; whether something in it was quoted matters when nothing is left of it. -/
structure Word where
  parts : List WordPart
  quoted : Bool := false
  deriving DecidableEq, Repr, Inhabited

/-- What a redirection does: the target names a file or another output, or is the input itself. -/
inductive RedirectKind
  | replace
  | append
  | read
  | duplicate
  | given
  deriving DecidableEq, Repr

/-- A redirection of an input or output. -/
structure Redirect where
  fd : Nat
  kind : RedirectKind
  target : Word
  deriving DecidableEq, Repr

/-- A shell script. A simple command knows its line; `broken` is the place from which on the text is
no script. A choice is a branch with the branches behind it. -/
inductive Script
  | nothing
  | simple (line : Nat) (words : List Word) (redirects : List Redirect)
  | both (first second : Script)
  | onSuccess (first second : Script)
  | onFailure (first second : Script)
  | negated (body : Script)
  | pipe (first second : Script)
  | forIn (name : String) (words : List Word) (body : Script)
  | conditional (test onTrue onFalse : Script)
  | loop (untilTrue : Bool) (test body : Script)
  | choice (subject : Word) (patterns : List Word) (body rest : Script)
  | subshell (body : Script)
  | redirected (body : Script) (redirects : List Redirect)
  | define (name : String) (body : Script)
  | background (body : Script)
  | broken (line : Nat) (message : String)
  deriving Repr, Inhabited

end BenchQueue.Machine
