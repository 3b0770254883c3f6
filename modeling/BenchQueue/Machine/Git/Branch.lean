import BenchQueue.Machine.Git.Site
/-!
# Branches and tags

Making, renaming, removing and listing references. A name that is taken is refused unless it is to
be replaced, and so is the removal of what is checked out.
-/

namespace BenchQueue.Machine.Git

/-- Removes branches; without `force` only those whose commits are part of what is checked out. -/
def deleteBranches (s : Site) (force : Bool) (names : List String) : Reply × Host :=
  let r := s.repository
  let head := r.headCommit?.elim [] r.history
  let mayGo (name : String) : Bool :=
    r.head ≠ .branch name && (r.branch? name).any fun commit => force || head.contains commit
  let left := (names.filter mayGo).foldl (fun r name => r.dropRef (Repository.branchRef name)) r
  let (_, host) := s.done left
  if names.all mayGo then ({}, host) else (refused "branch not deleted", host)

/-- Gives a branch another name. -/
def renameBranch (s : Site) (force : Bool) (old new : String) : Reply × Host :=
  let r := s.repository
  let isCurrent := r.head = .branch old
  match r.branch? old with
  | none =>
    if isCurrent && isRefName new then s.done { r with head := .branch new }
    else s.stop (fatal ("No branch named '" ++ old ++ "'."))
  | some commit =>
    let name := Repository.branchRef new
    let moved := r.dropRef (Repository.branchRef old)
    if !isRefName new then s.stop (fatal ("'" ++ new ++ "' is not a valid branch name"))
    else if new ≠ old && (r.branch? new).isSome && (!force || r.head = .branch new) then
      s.stop (fatal ("a branch named '" ++ new ++ "' already exists"))
    else if moved.refInTheWay name then s.stop (fatal "Branch rename failed")
    else
      let moved := moved.setRef name commit
      s.done (if isCurrent then { moved with head := .branch new } else moved)

/-- Makes a reference to a revision. -/
def makeRef (s : Site) (force : Bool) (name short : String) (start : Option String) :
    Reply × Host :=
  let r := s.repository
  match start.elim r.headCommit? r.resolve? with
  | none => s.stop (fatal "not a valid object name")
  | some commit =>
    if !isRefName short then s.stop (fatal ("'" ++ short ++ "' is not a valid name"))
    else if (r.ref? name).isSome && !force then
      s.stop (fatal ("'" ++ short ++ "' already exists"))
    else if (r.ref? name).isNone && r.refInTheWay name then s.stop (fatal "cannot lock ref")
    else s.done (r.setRef name commit)

/-- The names of the references in a folder, in order, a line each. -/
def refLines (r : Repository) (folder : String) : String :=
  let names := r.refs.filterMap fun (name, _) =>
    if folder.isPrefixOf name then some (name.drop folder.length).toString else none
  String.join ((names.mergeSort fun a b => a ≤ b).map (· ++ "\n"))

/-- The branch that is checked out. -/
def currentBranch? (r : Repository) : Option String :=
  match r.head with
  | .branch name => some name
  | .commit _ => none

/-- Lists, makes, renames or removes branches. -/
def branch (s : Site) (arguments : List String) : Reply × Host :=
  let (options, names) := splitOptions [] arguments
  let has (wanted : List String) : Bool := options.any wanted.contains
  let force := has ["-f", "--force", "-D", "-M"]
  let isKnown := ["-d", "--delete", "-D", "-m", "--move", "-M", "-f", "--force", "-q", "--quiet",
    "-a", "-r", "-v", "-vv", "--list", "--show-current", "--no-track", "-t", "--track"].contains
  if !options.all isKnown then s.stop unknownOption
  else if has ["-d", "--delete", "-D"] then
    if names.isEmpty then s.stop (fatal "branch name required") else deleteBranches s force names
  else if has ["-m", "--move", "-M"] then
    match names, currentBranch? s.repository with
    | [new], some old | [old, new], _ => renameBranch s force old new
    | _, _ => s.stop (fatal "wrong number of branches")
  else if has ["--show-current"] then
    s.stop { output := (currentBranch? s.repository).elim "" (· ++ "\n") }
  else
    match names with
    | [] => s.stop { output := refLines s.repository "refs/heads/" }
    | name :: start =>
      if has ["-a", "-r", "-v", "-vv", "--list"] then s.stop {}
      else if force && s.repository.head = .branch name && (s.repository.branch? name).isSome then
        s.stop (fatal "cannot force update the current branch")
      else makeRef s force (Repository.branchRef name) name start.head?

/-- Lists, makes or removes tags. -/
def tag (s : Site) (arguments : List String) : Reply × Host :=
  let (options, names) := splitOptions ["-m", "--message"] arguments
  let has (wanted : List String) : Bool := options.any wanted.contains
  let isKnown := ["-d", "--delete", "-f", "--force", "-a", "--annotate", "-m", "--message", "-l",
    "--list", "-n"].contains
  if !options.all isKnown then s.stop unknownOption
  else if has ["-d", "--delete"] then
    let r := s.repository
    let left := names.foldl (fun r name => r.dropRef (Repository.tagRef name)) r
    let (_, host) := s.done left
    if names.all fun name => (r.ref? (Repository.tagRef name)).isSome then ({}, host)
    else (refused "tag not found.", host)
  else
    match names with
    | [] => s.stop { output := refLines s.repository "refs/tags/" }
    | name :: start =>
      if has ["-l", "--list", "-n"] then s.stop {}
      else if 1 < start.length then s.stop (fatal "too many arguments")
      else makeRef s (has ["-f", "--force"]) (Repository.tagRef name) name start.head?

end BenchQueue.Machine.Git
