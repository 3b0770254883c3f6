import BenchQueue.Machine.Git.Site
/-!
# Cloning and fetching

A clone has the commits, tags and branches of another repository, the branches under names of their
own. Fetching brings these up to date.
-/

namespace BenchQueue.Machine.Git

/-- Copies what a remote repository has into one that was cloned from it. A tag that is here already
stays as it is; whether one has another commit there is told. -/
def fetchFrom (r remote : Repository) : Repository × Bool :=
  let r := r.addCommits remote.commits
  remote.refs.foldl (fun (r, clobbered) (name, commit) =>
    if "refs/heads/".isPrefixOf name then
      (r.setRef ("refs/remotes/origin/" ++ (name.drop "refs/heads/".length).toString) commit,
        clobbered)
    else if "refs/tags/".isPrefixOf name then
      match r.ref? name with
      | none => (r.setRef name commit, clobbered)
      | some here => (r, clobbered || here ≠ commit)
    else (r, clobbered)) (r, false)

/-- The repository that a name stands for. -/
def remote? (h : Host) (cwd : Path) (name : String) : Option Repository :=
  let name := if name.startsWith "file://" then (name.drop "file://".length).toString else name
  match h.files.resolve cwd name with
  | .ok path =>
    h.repository? path <|>
      (if path.getLast? = some ".git" then h.repository? path.dropLast else none)
  | .error _ => none

/-- What a clone is at: the branch that the remote is at, or, if that is at a commit itself, a
branch with this commit, if there is one. -/
def cloneHead (remote : Repository) : Head :=
  match remote.head with
  | .branch name => .branch name
  | .commit commit =>
    let branches := remote.refs.filterMap fun (name, c) =>
      if "refs/heads/".isPrefixOf name && c = commit then
        some (name.drop "refs/heads/".length).toString
      else none
    if branches.contains "master" then .branch "master"
    else ((branches.mergeSort fun a b => a ≤ b).head?).elim (.commit commit) .branch

/-- Clones a repository into a directory that is missing or empty. -/
def clone (h : Host) (cwd : Path) (source target : String) : Reply × Host :=
  let path := (if target.startsWith "/" then [] else cwd) ++ Files.plainParts target
  let taken := match h.files.find? path with
    | some .directory => !(h.files.list path).isEmpty
    | some (.file _ _) => true
    | none => false
  match remote? h cwd source with
  | none => (fatal ("repository '" ++ source ++ "' does not exist"), h)
  | some remote =>
    if taken then
      (fatal ("destination path '" ++ target ++ "' already exists and is not an empty directory."),
        h)
    else
      match h.files.makeDirsAt [] path with
      | .error _ => (fatal "could not create work tree dir", h)
      | .ok files =>
        let h := ({ h with files } : Host).withDirectory (path ++ [".git"])
        let (r, _) := fetchFrom { origin := some source, head := cloneHead remote } remote
        let r := match r.head, remote.headCommit? with
          | .branch name, some commit => r.setRef (Repository.branchRef name) commit
          | _, _ => r
        let r := { r with index := r.headFiles }
        ({}, (h.checkOut path [] r.index).setRepository path r)

/-- Fetches what the remote has; a tag that has moved there makes the command fail if tags are asked
for, but all else is fetched. -/
def fetch (s : Site) (arguments : List String) : Reply × Host :=
  match s.repository.origin.bind (remote? s.host s.root) with
  | none =>
    if s.repository.origin.isNone && arguments.isEmpty then s.stop {}
    else s.stop (fatal "'origin' does not appear to be a git repository")
  | some remote =>
    let (r, clobbered) := fetchFrom s.repository remote
    let wantsTags := arguments.contains "--tags" || arguments.contains "-t"
    let (_, host) := s.done r
    if clobbered && wantsTags then
      ({ code := 1, diagnostics := " ! [rejected] (would clobber existing tag)\n" }, host)
    else ({}, host)

/-- Reads or sets where the repository was cloned from. -/
def remote (s : Site) : List String → Reply × Host
  | [] | ["-v"] => s.stop { output := s.repository.origin.elim "" fun _ => "origin\n" }
  | ["add", "origin", url] =>
    if s.repository.origin.isSome then
      s.stop { code := 3, diagnostics := "error: remote origin already exists.\n" }
    else s.done { s.repository with origin := some url }
  | ["set-url", "origin", url] =>
    if s.repository.origin.isSome then s.done { s.repository with origin := some url }
    else s.stop { code := 2, diagnostics := "error: No such remote 'origin'\n" }
  | ["get-url", "origin"] =>
    match s.repository.origin with
    | some url => s.stop { output := url ++ "\n" }
    | none => s.stop { code := 2, diagnostics := "error: No such remote 'origin'\n" }
  | _ => s.stop { code := 129 }

end BenchQueue.Machine.Git
