import BenchQueue.Machine.Git.Site
/-!
# Checking out

What is checked out moves to a branch or to a commit itself. The working copy follows unless changes
that were made by hand would be lost; only a hard reset loses them.
-/

namespace BenchQueue.Machine.Git

/-- Goes to a commit, as a branch or as itself. -/
def goTo (s : Site) (head : Head) (commit : String) : Reply × Host :=
  match s.host.moveTo s.root s.repository (s.repository.filesOf commit) with
  | none => s.stop (refused "Your local changes would be overwritten by checkout")
  | some (host, r) => ({ s with host } : Site).done { r with head }

/-- Makes a branch and goes to it; `force` takes the place of a branch that is there. -/
def checkoutNew (s : Site) (force : Bool) (branch : String) (start : Option String) :
    Reply × Host :=
  let r := s.repository
  let name := Repository.branchRef branch
  if !isRefName branch then s.stop (fatal ("'" ++ branch ++ "' is not a valid branch name"))
  else if (r.ref? name).isSome && !force then
    s.stop (fatal ("a branch named '" ++ branch ++ "' already exists"))
  else
    match start.elim r.headCommit? r.resolve? with
    | none =>
      if start.isSome then s.stop (fatal "the start is not a commit")
      else s.done { r with head := .branch branch }
    | some commit =>
      if (r.ref? name).isNone && r.refInTheWay name then s.stop (fatal "cannot lock ref")
      else
        match s.host.moveTo s.root r (r.filesOf commit) with
        | none => s.stop (refused "Your local changes would be overwritten by checkout")
        | some (host, r) =>
          ({ s with host } : Site).done { r.setRef name commit with head := .branch branch }

/-- Puts files back as they are staged. -/
def restore (s : Site) (names : List String) : Reply × Host :=
  let wanted := names.map s.inside
  let isWanted (w : Path) (f : Tracked) : Bool := w.isPrefixOf f.path
  if wanted.all fun w => s.repository.index.any (isWanted w) then
    let files := s.repository.index.filter fun f => wanted.any (isWanted · f)
    ({}, files.foldl (fun h f => h.putFile s.root f) s.host)
  else s.stop (refused "pathspec did not match any file(s) known to git")

/-- Checks out a branch, a commit or files. -/
def checkout (s : Site) (name : String) : Reply × Host :=
  let r := s.repository
  if name = "HEAD" && r.headCommit?.isSome then s.stop {}
  else
    match r.branch? name with
    | some commit => goTo s (.branch name) commit
    | none =>
      match r.resolve? name with
      | some commit => goTo s (.commit commit) commit
      | none =>
        match r.ref? ("refs/remotes/origin/" ++ name) with
        | some commit =>
          goTo { s with repository := r.setRef (Repository.branchRef name) commit }
            (.branch name) commit
        | none => restore s [name]

/-- Resets to a revision: what is staged unless `soft`, and the working copy too if `hard`. -/
def reset (s : Site) (soft hard : Bool) (revision : Option String) : Reply × Host :=
  let r := s.repository
  match revision.elim r.headCommit? r.resolve? with
  | none =>
    match revision with
    | some revision => s.stop (unknownRevision revision)
    | none =>
      if soft then s.stop {}
      else
        let host := if hard then s.host.checkOut s.root r.index [] else s.host
        ({ s with host } : Site).done { r with index := [] }
  | some commit =>
    let files := r.filesOf commit
    let host := if hard then s.host.checkOut s.root (r.index ++ r.headFiles) files else s.host
    ({ s with host } : Site).done
      { r.moveHead commit with index := if soft then r.index else files }

end BenchQueue.Machine.Git
