import BenchQueue.Machine.Files
import BenchQueue.Machine.Sha1
/-!
# Repositories

What a version control system keeps: commits, references, what is checked out and what is staged.
Commits are named by the digest of what they contain, so the names are those of the real system for
the same author and date.
-/

namespace BenchQueue.Machine.Git

/-- A file of a commit, by its path in the repository. -/
structure Tracked where
  path : Path
  content : ByteArray
  executable : Bool
  deriving BEq

instance : Inhabited Tracked := ⟨⟨[], ByteArray.empty, false⟩⟩

/-- The file at a path among some files. -/
def fileAt? (files : List Tracked) (path : Path) : Option Tracked :=
  files.find? (·.path == path)

/-- A commit with its name. -/
structure Commit where
  name : String
  parents : List String
  files : List Tracked
  message : String
  deriving Inhabited

/-- What a working copy is at: a branch, or a commit itself. -/
inductive Head
  | branch (name : String)
  | commit (name : String)
  deriving DecidableEq, Repr

/-- A repository: its commits, its references, what is checked out, what is staged, and where it was
cloned from. -/
structure Repository where
  commits : List Commit := []
  refs : List (String × String) := []
  head : Head := .branch "master"
  index : List Tracked := []
  origin : Option String := none

instance : Inhabited Repository := ⟨{}⟩

/-- The author of every commit, with the date. -/
def signature : String := "a <a@b.c> 1700000000 +0000"

/-- The digest of an object of a kind. -/
def objectDigest (kind : String) (content : List UInt8) : List UInt8 :=
  let header := (kind ++ " " ++ toString content.length).toUTF8.toList ++ [0]
  (Sha1.digest (header ++ content)).bytes

/-- An entry of a directory: its name, its kind and its digest. -/
structure TreeEntry where
  name : String
  isDirectory : Bool
  executable : Bool
  digest : List UInt8

/-- The order of entries compares the names of directories with a slash behind them. -/
def TreeEntry.key (e : TreeEntry) : String := if e.isDirectory then e.name ++ "/" else e.name

/-- The bytes of an entry. -/
def TreeEntry.bytes (e : TreeEntry) : List UInt8 :=
  let mode := if e.isDirectory then "40000" else if e.executable then "100755" else "100644"
  (mode ++ " " ++ e.name).toUTF8.toList ++ [0] ++ e.digest

/-- The digest of a directory with the files below it; `depth` bounds the nesting of directories. -/
def treeDigest : (depth : Nat) → List Tracked → List UInt8
  | 0, _ => objectDigest "tree" []
  | depth + 1, files =>
    let names := (files.filterMap fun f => f.path.head?).eraseDups
    let entries := names.map fun name =>
      let inside := files.filter fun f => f.path.head? = some name
      match inside.find? fun f => f.path.length = 1 with
      | some f =>
        { name, isDirectory := false, executable := f.executable,
          digest := objectDigest "blob" f.content.toList : TreeEntry }
      | none =>
        { name, isDirectory := true, executable := false,
          digest := treeDigest depth (inside.map fun f => { f with path := f.path.drop 1 }) }
    let sorted := entries.mergeSort fun a b => a.key ≤ b.key
    objectDigest "tree" (sorted.flatMap TreeEntry.bytes)

/-- The nesting of directories that is looked into. -/
def maxDepth : Nat := 32

/-- The digest of some files, which tells whether two commits hold the same. -/
def filesDigest (files : List Tracked) : List UInt8 := treeDigest maxDepth files

/-- A message as it is kept: no blanks at the ends of lines, no blank lines at its ends and never
two of them together. -/
def tidyMessage (message : String) : String :=
  let lines := (message.splitOn "\n").map fun line => line.trimAsciiEnd.toString
  let joined := lines.foldl (fun kept line =>
    if line = "" ∧ (kept = [] ∨ kept.head? = some "") then kept else line :: kept) []
  "\n".intercalate (joined.dropWhile (· = "")).reverse

/-- The commit of some files on top of other commits. -/
def makeCommit (parents : List String) (files : List Tracked) (message : String) : Commit :=
  let tree := Sha1.hexText (filesDigest files)
  let content := "tree " ++ tree ++ "\n" ++
    String.join (parents.map fun p => "parent " ++ p ++ "\n") ++
    "author " ++ signature ++ "\ncommitter " ++ signature ++ "\n\n" ++ message ++ "\n"
  { name := Sha1.hexText (objectDigest "commit" content.toUTF8.toList), parents, files, message }

/-- Whether a branch or a tag may have a name. -/
def isRefName (name : String) : Bool :=
  let parts := name.splitOn "/"
  let hasPart (text : String) : Bool := 1 < (name.splitOn text).length
  name ≠ "@" && !name.startsWith "-" && !name.endsWith "." &&
    parts.all (fun p => p ≠ "" && !p.startsWith "." && !p.endsWith ".lock") &&
    !hasPart ".." && !hasPart "@\x7b" &&
    name.toList.all fun c => 32 ≤ c.toNat && c.toNat ≠ 127 && !" ~^:?*[\\".toList.contains c

namespace Repository

/-- The commit that a reference names. -/
def ref? (r : Repository) (name : String) : Option String :=
  (r.refs.find? (·.1 = name)).map (·.2)

/-- Lets a reference name a commit. -/
def setRef (r : Repository) (name commit : String) : Repository :=
  { r with refs := (name, commit) :: r.refs.filter (·.1 ≠ name) }

/-- Removes a reference. -/
def dropRef (r : Repository) (name : String) : Repository :=
  { r with refs := r.refs.filter (·.1 ≠ name) }

/-- Whether another reference lies below a name or around it, as a file would in a directory. -/
def refInTheWay (r : Repository) (name : String) : Bool :=
  r.refs.any fun (other, _) => (name ++ "/").isPrefixOf other || (other ++ "/").isPrefixOf name

/-- The reference of a branch. -/
def branchRef (name : String) : String := "refs/heads/" ++ name

/-- The reference of a tag. -/
def tagRef (name : String) : String := "refs/tags/" ++ name

/-- The commit of a branch. -/
def branch? (r : Repository) (name : String) : Option String := r.ref? (branchRef name)

/-- The commit that is checked out; a branch may have none yet. -/
def headCommit? (r : Repository) : Option String :=
  match r.head with
  | .commit name => some name
  | .branch name => r.branch? name

/-- The commit with a name. -/
def commit? (r : Repository) (name : String) : Option Commit :=
  r.commits.find? (·.name = name)

/-- The files of a commit. -/
def filesOf (r : Repository) (commit : String) : List Tracked :=
  (r.commit? commit).elim [] Commit.files

/-- The files of the commit that is checked out. -/
def headFiles (r : Repository) : List Tracked :=
  r.headCommit?.elim [] r.filesOf

/-- The commit that a name without further signs stands for. -/
def named? (r : Repository) (name : String) : Option String :=
  if name = "HEAD" ∨ name = "@" then r.headCommit?
  else
    (["", "refs/", "refs/tags/", "refs/heads/", "refs/remotes/"].findSome? fun start =>
      r.ref? (start ++ name)) <|>
    match r.commits.filter fun c => 4 ≤ name.length && name.isPrefixOf c.name with
    | [c] => some c.name
    | _ => none

/-- The commit that signs behind a name lead to: `~` goes back as many first parents as a number
says, `^` to the parent with that number, both by one when there is none. -/
def follow (r : Repository) : (signs : List Char) → (fuel : Nat) → String → Option String
  | [], _, commit => some commit
  | sign :: rest, fuel + 1, commit =>
    let digits := rest.takeWhile Char.isDigit
    let rest := rest.dropWhile Char.isDigit
    let count := if digits.isEmpty then 1 else (String.ofList digits).toNat?.getD 1
    let parent? (i : Nat) (name : String) : Option String :=
      (r.commit? name).bind fun c => c.parents[i]?
    let next :=
      if sign = '~' then (List.range (min count (r.commits.length + 1))).foldl
        (fun at_ _ => at_.bind (parent? 0)) (some commit)
      else if sign = '^' then
        match count with
        | 0 => some commit
        | i + 1 => parent? i commit
      else none
    next.bind (r.follow rest fuel)
  | _ :: _, 0, _ => none

/-- The commit that a revision stands for. -/
def resolve? (r : Repository) (revision : String) : Option String :=
  let isSign (c : Char) : Bool := c = '~' || c = '^'
  let name := revision.toList.takeWhile (fun c => !isSign c)
  let signs := revision.toList.dropWhile (fun c => !isSign c)
  (r.named? (String.ofList name)).bind (r.follow signs signs.length)

/-- Adds commits that are not there yet. -/
def addCommits (r : Repository) (commits : List Commit) : Repository :=
  { r with commits := r.commits ++ commits.filter fun c => (r.commit? c.name).isNone }

/-- Moves what is checked out to a commit. -/
def moveHead (r : Repository) (commit : String) : Repository :=
  match r.head with
  | .branch name => r.setRef (branchRef name) commit
  | .commit _ => { r with head := .commit commit }

/-- The commits that can be reached from some commits, these among them; `fuel` bounds the length
of a history. -/
def reachable (r : Repository) : (fuel : Nat) → (seen next : List String) → List String
  | 0, seen, _ => seen
  | fuel + 1, seen, next =>
    let fresh := (next.filter fun c => !seen.contains c).eraseDups
    if fresh.isEmpty then seen
    else
      r.reachable fuel (seen ++ fresh)
        (fresh.flatMap fun c => (r.commit? c).elim [] Commit.parents)

/-- A commit and those it is built on. -/
def history (r : Repository) (commit : String) : List String :=
  r.reachable (r.commits.length + 1) [] [commit]

/-- The last commit that two histories share. -/
def mergeBase? (r : Repository) (a b : String) : Option String :=
  let other := r.history b
  let shared := (r.history a).filter other.contains
  shared.find? fun c => shared.all fun d => d = c || !(r.history d).contains c

end Repository

end BenchQueue.Machine.Git
