import BenchQueue.Machine.Git.Repository
/-!
# Working copies

The files of a machine together with the repositories among them, and what moves files between a
repository and its working copy. A move to other files keeps what was changed by hand, or is
refused when it would lose it.
-/

namespace BenchQueue.Machine.Git

/-- The files and repositories of a machine. -/
structure Host where
  files : Files := {}
  repositories : List (Path × Repository) := []
  deriving Inhabited

namespace Host

/-- The repository at a path. -/
def repository? (h : Host) (path : Path) : Option Repository :=
  match h.files.find? (path ++ [".git"]) with
  | some .directory => (h.repositories.find? (·.1 == path)).map (·.2)
  | _ => none

/-- The repository in a directory or one around it, with its path. -/
def enclosing? (h : Host) (path : Path) : Option (Path × Repository) :=
  (List.range (path.length + 1)).findSome? fun up =>
    let at_ := path.take (path.length - up)
    (h.repository? at_).map fun r => (at_, r)

/-- Puts a repository at a path. -/
def setRepository (h : Host) (path : Path) (r : Repository) : Host :=
  { h with repositories := (path, r) :: h.repositories.filter (·.1 != path) }

/-- Makes the directories of a path. -/
def withDirectory (h : Host) (path : Path) : Host :=
  match h.files.makeDirsAt [] path with
  | .ok files => { h with files }
  | .error _ => h

/-- Removes the directories of a path that are empty, from the innermost one, but not the first
`keep` of them. -/
def pruneDirectories (h : Host) (keep : Nat) (path : Path) : Host :=
  (List.range (path.length - keep)).foldl (fun (h : Host) up =>
    let at_ := path.take (path.length - up)
    if (h.files.find? at_).isSome && (h.files.list at_).isEmpty then
      { h with files := h.files.removeTree at_ }
    else h) h

/-- Removes a file of a working copy, and the directories that are empty then. -/
def removeFile (h : Host) (root file : Path) : Host :=
  pruneDirectories { h with files := h.files.removeTree (root ++ file) } root.length
    (root ++ file.dropLast)

/-- Writes a file of a working copy. -/
def putFile (h : Host) (root : Path) (f : Tracked) : Host :=
  let h := h.withDirectory (root ++ f.path.dropLast)
  { h with files := h.files.set (root ++ f.path) (.file f.content f.executable) }

/-- Puts the files of a commit into a working copy, in place of other ones. -/
def checkOut (h : Host) (root : Path) (old new : List Tracked) : Host :=
  let cleared := old.foldl (fun h f =>
    if (fileAt? new f.path).isSome then h else h.removeFile root f.path) h
  new.foldl (fun h f => h.putFile root f) cleared

/-- The files below a directory that are not those of the repository itself. -/
def workingFiles (h : Host) (root : Path) : List Tracked :=
  h.files.entries.filterMap fun (p, entry) =>
    match entry with
    | .file content executable =>
      let inside := p.drop root.length
      if root.isPrefixOf p ∧ inside ≠ [] ∧ inside.head? ≠ some ".git" then
        some ⟨inside, content, executable⟩
      else none
    | .directory => none

/-- What happens to one file when a working copy moves from a commit to another: it is left alone,
it is replaced, or the move is refused. -/
inductive Move
  | keep
  | replace
  | refuse
  deriving DecidableEq, Repr

/-- A file that both commits have alike is kept as it is. One that differs is replaced if neither
what is staged nor the working copy holds anything else. -/
def moveOf (before staged working after : Option Tracked) : Move :=
  if before == after || staged == after then .keep
  else if staged != before then .refuse
  else
    match staged, working with
    | _, none => .replace
    | some _, some _ => if working == staged then .replace else .refuse
    | none, some _ => .refuse

/-- Moves the working copy of a repository and what it has staged to the files of another commit;
nothing if that would lose a change. -/
def moveTo (h : Host) (root : Path) (r : Repository) (after : List Tracked) :
    Option (Host × Repository) :=
  let before := r.headFiles
  let working := h.workingFiles root
  let paths := ((before ++ after).map Tracked.path).eraseDups
  paths.foldlM (fun (h, r) path =>
    match moveOf (fileAt? before path) (fileAt? r.index path) (fileAt? working path)
        (fileAt? after path) with
    | .keep => some (h, r)
    | .refuse => none
    | .replace =>
      let rest := r.index.filter (·.path != path)
      match fileAt? after path with
      | some f => some (h.putFile root f, { r with index := rest ++ [f] })
      | none => some (h.removeFile root path, { r with index := rest })) (h, r)

end Host

end BenchQueue.Machine.Git
