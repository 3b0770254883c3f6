import BenchQueue.Machine.Git.Site
/-!
# Staging

Files are taken into what the next commit holds, as they are in the working copy, or are taken out
of it.
-/

namespace BenchQueue.Machine.Git

/-- Stages the files below some names, as they are or as missing; a name that stands for nothing is
an error unless it stands for all. -/
def add (s : Site) (arguments : List String) : Reply × Host :=
  let (options, names) := splitOptions [] arguments
  let all := options.any ["-A", "--all", "-u", "--update"].contains
  let r := s.repository
  let wanted := if all && names.isEmpty then [[]] else names.map s.inside
  let isWanted (f : Tracked) : Bool := wanted.any fun w => w.isPrefixOf f.path
  let working := (s.host.workingFiles s.root).filter fun f =>
    !options.any ["-u", "--update"].contains || (fileAt? r.index f.path).isSome
  let isThere (w : Path) : Bool :=
    (s.host.files.find? (s.root ++ w) matches some .directory) ||
      (working ++ r.index).any fun f => w.isPrefixOf f.path
  if wanted.all isThere then
    s.done { r with
      index := r.index.filter (fun f => !isWanted f) ++ working.filter isWanted }
  else s.stop (fatal "pathspec did not match any files")

/-- Removes files from what is staged and from the working copy. -/
def remove (s : Site) (arguments : List String) : Reply × Host :=
  let (options, names) := splitOptions [] arguments
  let r := s.repository
  let wanted := names.map s.inside
  let isWanted (f : Tracked) : Bool := wanted.any fun w => w.isPrefixOf f.path
  let gone := r.index.filter isWanted
  let working := s.host.workingFiles s.root
  let isClean (f : Tracked) : Bool :=
    fileAt? r.headFiles f.path == some f &&
      ((fileAt? working f.path).isNone || fileAt? working f.path == some f)
  if !wanted.all fun w => r.index.any fun f => w.isPrefixOf f.path then
    s.stop (fatal "pathspec did not match any files")
  else if !options.contains "-r" && gone.any (fun f => !wanted.contains f.path) then
    s.stop (fatal "not removing recursively without -r")
  else if !options.any ["-f", "--force", "--cached"].contains && !gone.all isClean then
    s.stop (refused "the file has local modifications")
  else
    let host := if options.contains "--cached" then s.host
      else gone.foldl (fun h f => h.removeFile s.root f.path) s.host
    ({ s with host } : Site).done { r with index := r.index.filter fun f => !isWanted f }

end BenchQueue.Machine.Git
