import BenchQueue.Machine.Git.Host
/-!
# Where commands run

A command on a repository answers how it ended and what it wrote, and the machine as it is then. It
finds its repository in the directory that it runs in or in one around it.
-/

namespace BenchQueue.Machine.Git

/-- How a command ended and what it wrote. -/
structure Reply where
  code : Nat := 0
  output : String := ""
  diagnostics : String := ""
  deriving DecidableEq, Repr

/-- The reply about a command that cannot work. -/
def fatal (text : String) : Reply := { code := 128, diagnostics := "fatal: " ++ text ++ "\n" }

/-- The reply about a request that is refused. -/
def refused (text : String) : Reply := { code := 1, diagnostics := "error: " ++ text ++ "\n" }

/-- The reply about an option that a command does not have. -/
def unknownOption : Reply := { code := 129, diagnostics := "error: unknown option\n" }

/-- The reply about a name that stands for no commit. -/
def unknownRevision (revision : String) : Reply :=
  fatal ("ambiguous argument '" ++ revision ++
    "': unknown revision or path not in the working tree.")

/-- A repository that a command works in: the machine, the directory of the repository, the
directory in which the command runs, and the repository. -/
structure Site where
  host : Host
  root : Path
  cwd : Path
  repository : Repository

namespace Site

/-- The answer of a command that leaves another repository. -/
def done (s : Site) (r : Repository) : Reply × Host :=
  ({}, s.host.setRepository s.root r)

/-- The answer of a command that changes nothing. -/
def stop (s : Site) (reply : Reply) : Reply × Host := (reply, s.host)

/-- The path inside the repository of a name. -/
def inside (s : Site) (name : String) : Path :=
  ((if name.startsWith "/" then [] else s.cwd) ++ Files.plainParts name).drop s.root.length

end Site

/-- The options among some arguments and the rest of them. The options in `valued` take the argument
behind them along; nothing is an option behind `--`. -/
def splitOptions (valued : List String) : List String → List String × List String
  | [] => ([], [])
  | a :: rest =>
    if a = "--" then ([], rest)
    else if a.startsWith "-" && a ≠ "-" then
      match rest with
      | [] => ([a], [])
      | value :: behind =>
        let (options, names) :=
          if valued.contains a then splitOptions valued behind
          else splitOptions valued (value :: behind)
        (a :: options, names)
    else
      let (options, names) := splitOptions valued rest
      (options, a :: names)
termination_by arguments => arguments.length

end BenchQueue.Machine.Git
