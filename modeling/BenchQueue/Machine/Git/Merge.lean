import BenchQueue.Machine.Git.Checkout
/-!
# Merging

A merge goes forward to the other commit when that is built on what is checked out. Otherwise it
makes a commit on top of both, file by file: of each file the side that changed it is taken.
-/

namespace BenchQueue.Machine.Git

/-- What a merge makes of one file: the side that changed it, if not both did in different ways. -/
def mergeFile (base ours theirs : Option Tracked) : Option (Option Tracked) :=
  if ours == theirs || theirs == base then some ours
  else if ours == base then some theirs
  else none

/-- The files of a merge; nothing if both sides changed one of them. -/
def mergeFiles (base ours theirs : List Tracked) : Option (List Tracked) := do
  let paths := ((ours ++ theirs).map Tracked.path).eraseDups
  let merged ← paths.mapM fun path =>
    mergeFile (fileAt? base path) (fileAt? ours path) (fileAt? theirs path)
  pure (merged.filterMap id)

/-- What the message of a merge calls a revision. -/
def mergedName (r : Repository) (revision : String) : String :=
  if (r.branch? revision).isSome then "branch '" ++ revision ++ "'"
  else if (r.ref? (Repository.tagRef revision)).isSome then "tag '" ++ revision ++ "'"
  else if (r.ref? ("refs/remotes/" ++ revision)).isSome then
    "remote-tracking branch '" ++ revision ++ "'"
  else "commit '" ++ revision ++ "'"

/-- Merges a revision into what is checked out. -/
def merge (s : Site) (arguments : List String) : Reply × Host :=
  let (options, names) := splitOptions ["-m"] arguments
  let r := s.repository
  match names with
  | [revision] =>
    match r.resolve? revision, r.headCommit? with
    | none, some _ => s.stop (refused (revision ++ " - not something we can merge"))
    | theirs, none =>
      if options.contains "--no-ff" then
        s.stop (fatal "Non-fast-forward commit does not make sense into an empty head")
      else if theirs.isSome then reset s false true theirs
      else s.stop (refused (revision ++ " - not something we can merge"))
    | some theirs, some ours =>
      if (r.history ours).contains theirs then s.stop { output := "Already up to date.\n" }
      else if (r.history theirs).contains ours && !options.contains "--no-ff" then
        match s.host.moveTo s.root r (r.filesOf theirs) with
        | none => s.stop (refused "Your local changes would be overwritten by merge")
        | some (host, r) => ({ s with host } : Site).done (r.moveHead theirs)
      else if options.contains "--ff-only" then
        s.stop (fatal "Not possible to fast-forward, aborting.")
      else
        match r.mergeBase? ours theirs with
        | none => s.stop (fatal "refusing to merge unrelated histories")
        | some base =>
          match mergeFiles (r.filesOf base) (r.filesOf ours) (r.filesOf theirs) with
          | none => s.stop { code := 1, output := "Automatic merge failed\n" }
          | some files =>
            match s.host.moveTo s.root r files with
            | none => s.stop (refused "Your local changes would be overwritten by merge")
            | some (host, r) =>
              let into := match r.head with
                | .branch "master" => ""
                | .branch name => " into " ++ name
                | .commit _ => " into HEAD"
              let message := match arguments with
                | "-m" :: message :: _ => tidyMessage message
                | _ => "Merge " ++ mergedName r revision ++ into
              let c := makeCommit [ours, theirs] files message
              ({ s with host } : Site).done ((r.addCommits [c]).moveHead c.name)
  | _ => s.stop (fatal "No remote for the current branch.")

end BenchQueue.Machine.Git
