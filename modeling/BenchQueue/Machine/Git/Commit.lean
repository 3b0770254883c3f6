import BenchQueue.Machine.Git.Site
/-!
# Committing

What is staged becomes a commit on top of what is checked out, or in place of it. A commit that
would change nothing is refused unless that is asked for, and so is one without a message.
-/

namespace BenchQueue.Machine.Git

/-- What the arguments of a commit ask for. -/
structure CommitRequest where
  messages : List String := []
  stageTracked : Bool := false
  allowEmpty : Bool := false
  allowEmptyMessage : Bool := false
  amend : Bool := false
  keepMessage : Bool := false

namespace CommitRequest

/-- Adds a paragraph to the message. -/
def say (q : CommitRequest) (message : String) : CommitRequest :=
  { q with messages := q.messages ++ [message] }

/-- What an option without a value adds. -/
def option? (q : CommitRequest) : String → Option CommitRequest
  | "-a" | "--all" => some { q with stageTracked := true }
  | "--allow-empty" => some { q with allowEmpty := true }
  | "--allow-empty-message" => some { q with allowEmptyMessage := true }
  | "--amend" => some { q with amend := true }
  | "--no-edit" => some { q with keepMessage := true }
  | "-q" | "--quiet" | "-n" | "--no-verify" | "--no-gpg-sign" => some q
  | other =>
    if other.startsWith "--message=" then some (q.say (other.drop "--message=".length).toString)
    else if other.startsWith "-m" then some (q.say (other.drop "-m".length).toString)
    else none

/-- Reads the arguments of a commit. -/
def read (q : CommitRequest) : List String → Option CommitRequest
  | [] => some q
  | "-m" :: message :: rest | "--message" :: message :: rest | "-qm" :: message :: rest =>
    (q.say message).read rest
  | "-am" :: message :: rest => ({ q with stageTracked := true }.say message).read rest
  | option :: rest => (q.option? option).bind (read · rest)

end CommitRequest

/-- The files that are staged when all that is tracked is staged as it is. -/
def trackedAsTheyAre (s : Site) : List Tracked :=
  let working := s.host.workingFiles s.root
  s.repository.index.filterMap fun f => fileAt? working f.path

/-- Whether the branch that is checked out cannot be made. -/
def isBlocked (r : Repository) : Bool :=
  match r.head with
  | .branch name => (r.branch? name).isNone && r.refInTheWay (Repository.branchRef name)
  | .commit _ => false

/-- Commits what is staged. -/
def commit (s : Site) (q : CommitRequest) : Reply × Host :=
  let r := if q.stageTracked then { s.repository with index := trackedAsTheyAre s }
    else s.repository
  let last := r.headCommit?.bind r.commit?
  let parents :=
    if q.amend then last.elim [] Commit.parents else last.elim [] fun c => [c.name]
  let before := parents.head?.elim [] r.filesOf
  let message :=
    if q.messages.isEmpty && q.amend && q.keepMessage then last.elim "" Commit.message
    else tidyMessage ("\n\n".intercalate q.messages)
  if q.amend && last.isNone then s.stop (fatal "You have nothing to amend.")
  else if filesDigest before = filesDigest r.index && !q.allowEmpty && parents.length < 2 then
    s.stop { code := 1, output := "nothing to commit\n" }
  else if message = "" && !q.allowEmptyMessage then
    s.stop { code := 1, diagnostics := "Aborting commit due to empty commit message.\n" }
  else if isBlocked r then s.stop (fatal "cannot lock ref 'HEAD'")
  else
    let c := makeCommit parents r.index message
    s.done ((r.addCommits [c]).moveHead c.name)

end BenchQueue.Machine.Git
