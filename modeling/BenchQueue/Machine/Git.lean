import BenchQueue.Machine.Git.Branch
import BenchQueue.Machine.Git.Commit
import BenchQueue.Machine.Git.Exchange
import BenchQueue.Machine.Git.Merge
import BenchQueue.Machine.Git.Stage
/-!
# Commands on repositories

As much of a version control system as the worker and its surroundings use. A command is found by
its first word; one that does not exist, one outside a repository and one that cannot work end with
different numbers.
-/

namespace BenchQueue.Machine.Git

/-- Tells the commit or the branch that a revision stands for. -/
def revisionText (s : Site) : List String → Reply × Host
  | ["--abbrev-ref", "HEAD"] =>
    match s.repository.head, s.repository.headCommit? with
    | .branch name, some _ => s.stop { output := name ++ "\n" }
    | .commit _, some _ => s.stop { output := "HEAD\n" }
    | _, none => s.stop (unknownRevision "HEAD")
  | ["--short", revision] => told revision fun commit => (commit.take 7).toString
  | ["--verify", revision] | ["-q", "--verify", revision] | [revision] => told revision id
  | _ => s.stop {}
where
  /-- The text for a revision, if it stands for a commit. -/
  told (revision : String) (text : String → String) : Reply × Host :=
    if revision.startsWith "--" then s.stop { output := revision ++ "\n" }
    else
      let isDigest := revision.length = 40 && revision.toList.all "0123456789abcdef".toList.contains
      match s.repository.resolve? revision <|> (if isDigest then some revision else none) with
      | some commit => s.stop { output := text commit ++ "\n" }
      | none => s.stop (unknownRevision revision)

/-- Checks out something, perhaps on a branch of its own. -/
def checkoutCommand (s : Site) : List String → Reply × Host
  | "-q" :: rest | "--quiet" :: rest => checkoutCommand s rest
  | [] =>
    if s.repository.headCommit?.isSome then s.stop {}
    else s.stop (fatal "You are on a branch yet to be born")
  | ["-b", branch] => checkoutNew s false branch none
  | ["-b", branch, start] => checkoutNew s false branch (some start)
  | ["-B", branch] => checkoutNew s true branch none
  | ["-B", branch, start] => checkoutNew s true branch (some start)
  | ["--orphan", branch] =>
    if !isRefName branch || (s.repository.branch? branch).isSome then
      s.stop (fatal ("'" ++ branch ++ "' is not a new branch"))
    else s.done { s.repository with head := .branch branch }
  | ["--detach"] => detach "HEAD"
  | ["--detach", revision] => detach revision
  | "--" :: names => restore s names
  | [name] => if name.startsWith "-" then s.stop unknownOption else checkout s name
  | option :: _ =>
    if option.startsWith "-" then s.stop unknownOption
    else s.stop (refused "pathspec did not match any file(s) known to git")
where
  /-- Goes to a commit itself. -/
  detach (revision : String) : Reply × Host :=
    match s.repository.resolve? revision with
    | some commit => goTo s (.commit commit) commit
    | none => s.stop (fatal ("invalid reference: " ++ revision))

/-- Goes to a branch. -/
def switchCommand (s : Site) : List String → Reply × Host
  | "-q" :: rest => switchCommand s rest
  | "-c" :: rest => checkoutCommand s ("-b" :: rest)
  | "-C" :: rest => checkoutCommand s ("-B" :: rest)
  | "--detach" :: rest => checkoutCommand s ("--detach" :: rest)
  | ["--orphan", branch] => checkoutCommand s ["--orphan", branch]
  | [branch] =>
    if (s.repository.branch? branch).isSome ||
        (s.repository.ref? ("refs/remotes/origin/" ++ branch)).isSome then checkout s branch
    else s.stop (fatal ("invalid reference: " ++ branch))
  | _ => s.stop (fatal "missing branch or commit argument")

/-- Resets what is checked out. -/
def resetCommand (s : Site) (arguments : List String) : Reply × Host :=
  let (options, names) := splitOptions [] arguments
  let isKnown := ["--hard", "--soft", "--mixed", "-q", "--quiet", "--keep", "--merge"].contains
  if !options.all isKnown then s.stop unknownOption
  else
    reset s (options.contains "--soft") (options.contains "--hard") names.head?

/-- Sets or removes a reference by its full name. -/
def updateRef (s : Site) : List String → Reply × Host
  | "-d" :: name :: _ => s.done (s.repository.dropRef name)
  | name :: revision :: _ =>
    match s.repository.resolve? revision with
    | none => s.stop (fatal (revision ++ ": not a valid SHA1"))
    | some commit =>
      if name = "HEAD" then s.done (s.repository.moveHead commit)
      else if name.startsWith "refs/" && isRefName name then
        s.done (s.repository.setRef name commit)
      else s.stop (fatal ("update_ref failed for ref '" ++ name ++ "'"))
  | _ => s.stop { code := 129 }

/-- Tells or sets the branch that is checked out. -/
def symbolicRef (s : Site) : List String → Reply × Host
  | ["HEAD", name] =>
    if "refs/heads/".isPrefixOf name then
      s.done { s.repository with head := .branch (name.drop "refs/heads/".length).toString }
    else s.stop (fatal "Refusing to point HEAD outside of refs/")
  | ["HEAD"] => told (Repository.branchRef ·)
  | ["--short", "HEAD"] => told id
  | _ => s.stop { code := 129 }
where
  /-- The text for the branch that is checked out. -/
  told (text : String → String) : Reply × Host :=
    match s.repository.head with
    | .branch name => s.stop { output := text name ++ "\n" }
    | .commit _ => s.stop (fatal "ref HEAD is not a symbolic ref")

/-- Reads or sets a setting; nothing of what is set is needed here. -/
def config (s : Site) (arguments : List String) : Reply × Host :=
  let (options, names) := splitOptions [] arguments
  match names with
  | ["remote.origin.url"] =>
    match s.repository.origin with
    | some url => s.stop { output := url ++ "\n" }
    | none => s.stop { code := 1 }
  | [_] => s.stop { code := if options.contains "--unset" then 5 else 1 }
  | [] => s.stop { code := if options.isEmpty then 129 else 0 }
  | _ => s.stop {}

/-- A command in a repository; nothing if there is no such command. -/
def command? (s : Site) : List String → Option (Reply × Host)
  | "commit" :: rest => some <|
    match CommitRequest.read {} rest with
    | some q => commit s q
    | none => s.stop unknownOption
  | "checkout" :: rest => some (checkoutCommand s rest)
  | "switch" :: rest => some (switchCommand s rest)
  | "branch" :: rest => some (branch s rest)
  | "tag" :: rest => some (tag s rest)
  | "merge" :: rest => some (merge s rest)
  | "add" :: rest | "stage" :: rest => some <|
    if rest.isEmpty then s.stop {} else add s rest
  | "rm" :: rest => some (remove s rest)
  | "fetch" :: rest => some (fetch s rest)
  | "remote" :: rest => some (remote s rest)
  | "reset" :: rest => some (resetCommand s rest)
  | "rev-parse" :: rest => some (revisionText s rest)
  | "update-ref" :: rest => some (updateRef s rest)
  | "symbolic-ref" :: rest => some (symbolicRef s rest)
  | "config" :: rest => some (config s rest)
  | "log" :: _ | "show" :: _ => some <|
    match s.repository.headCommit? with
    | some _ => s.stop {}
    | none => s.stop (fatal "your current branch does not have any commits yet")
  | "status" :: _ | "diff" :: _ | "ls-files" :: _ | "gc" :: _ => some (s.stop {})
  | _ => none

/-- What a repository is made with: the branch that it is at, and the directory. -/
def initArguments (branch : String) (directory : Option String) :
    List String → String × Option String
  | [] => (branch, directory)
  | "-b" :: name :: rest | "--initial-branch" :: name :: rest => initArguments name directory rest
  | a :: rest =>
    if a.startsWith "--initial-branch=" then
      initArguments (a.drop "--initial-branch=".length).toString directory rest
    else if a.startsWith "-" then initArguments branch directory rest
    else initArguments branch (some a) rest

/-- Makes a repository in a directory, if there is none. -/
def init (h : Host) (cwd : Path) (arguments : List String) : Reply × Host :=
  let (branch, directory) := initArguments "master" none arguments
  let path := directory.elim cwd fun name =>
    (if name.startsWith "/" then [] else cwd) ++ Files.plainParts name
  if !isRefName branch then (fatal ("invalid initial branch name: '" ++ branch ++ "'"), h)
  else
    match h.repository? path with
    | some _ => ({}, h)
    | none =>
      match h.files.makeDirsAt [] (path ++ [".git"]) with
      | .error _ => (fatal "cannot make the repository", h)
      | .ok files => ({}, { h with files }.setRepository path { head := .branch branch })

/-- Runs a command in a directory. -/
def run (h : Host) (cwd : Path) : List String → Reply × Host
  | [] => ({ code := 1 }, h)
  | "-C" :: directory :: rest =>
    match h.files.resolve cwd directory with
    | .ok path =>
      if h.files.find? path matches some .directory then run h path rest
      else (fatal ("cannot change to '" ++ directory ++ "'"), h)
    | .error _ => (fatal ("cannot change to '" ++ directory ++ "'"), h)
  | "-c" :: _ :: rest => run h cwd rest
  | "--no-pager" :: rest => run h cwd rest
  | "--version" :: _ | "version" :: _ => ({ output := "git version 2.39.5\n" }, h)
  | "--help" :: _ | "help" :: _ => ({}, h)
  | "init" :: rest => init h cwd rest
  | "clone" :: rest =>
    match (splitOptions ["-b", "--branch", "--depth", "-o"] rest).2 with
    | [source, target] => clone h cwd source target
    | [source] => clone h cwd source ((Files.plainParts source).getLast?.getD "")
    | _ => ({ code := 129 }, h)
  | name :: rest =>
    let (root, r) := (h.enclosing? cwd).getD ([], {})
    match command? { host := h, root, cwd, repository := r } (name :: rest) with
    | none => ({ code := if name.startsWith "-" then 129 else 1 }, h)
    | some answer =>
      if (h.enclosing? cwd).isSome then answer
      else if name = "config" && rest.length = 1 then ({ code := 1 }, h)
      else if name = "diff" then ({ code := 129 }, h)
      else (fatal "not a git repository (or any of the parent directories): .git", h)

end BenchQueue.Machine.Git
