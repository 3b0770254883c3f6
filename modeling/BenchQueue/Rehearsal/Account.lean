import BenchQueue.Json.Leaves
import BenchQueue.Rehearsal.Plan
/-!
# Accounts of rehearsals

What is told about a rehearsal when it is over: the events in the order of their times, and the
files of its runs. Two rehearsals of one plan differ in the identities and the times of day that
they make up; masked texts do not.
-/

namespace BenchQueue.Rehearsal

/-- An entry in the account of events: its time in milliseconds, whom it concerns, and what it says.
-/
structure Entry where
  millis : Nat
  name : String
  value : Json

/-- A workflow with the files for its output. -/
def workflowAccount (w : Infra.Workflow) : Json :=
  .obj [("command", .str w.command), ("playbooks", .arr (w.playbooks.map .str)),
    ("inventory", Json.ofOption .str w.inventory), ("working_dir", Json.ofOption .str w.workingDir),
    ("extra_vars", .obj w.extraVars), ("stdout_path", Json.ofOption .str w.stdoutPath),
    ("stderr_path", Json.ofOption .str w.stderrPath)]

/-- What is told about a call on a provider. -/
def callAccount : Infra.Call → List Json
  | .setConfig c => [.obj [("set_config", c.toJson)]]
  | .setExecUuid id => [.obj [("set_exec_uuid", .str id.text), ("version", .int id.version)]]
  | .setTags tags => [.obj [("set_tags", .obj (tags.map fun (name, tag) => (name, .str tag)))]]
  | .prepare => [.str "prepare"]
  | .provision => [.str "provision"]
  | .run w => [workflowAccount w, .str "run"]
  | .cleanUp => [.str "clean_up"]

/-- Whom an event concerns, and what is told about it. -/
def Event.account : Event → String × List Json
  | .attemptStarted run number configPath =>
    (run.text, [.obj [("start", .int number), ("config", .str configPath)]])
  | .attemptEnded run number ending =>
    (run.text, [.obj [("end", .int number), ("result", .str ending.word)]])
  | .measured kind current target =>
    ("measure",
      [.arr [.str (if kind.isMicro then "micro" else "macro"), .str current.text, .str target.text]])
  | .notified text => ("notify", [.str text])
  | .providerMade kind => ("infra", [.obj [("create", .str kind)]])
  | .providerCalled call => ("infra", callAccount call)

/-- The order of entries by time and name. -/
def Entry.isBefore (a b : Entry) : Bool :=
  a.millis < b.millis || (a.millis == b.millis && (a.name < b.name || a.name == b.name))

/-- The account of the events; entries of one time and name stay in the order of occurrence. -/
def World.account (w : World) : List Entry :=
  let entries := w.log.flatMap fun (instant, event) =>
    let (name, values) := event.account
    values.map fun value => { millis := instant.millis, name, value }
  entries.mergeSort Entry.isBefore

/-- Whether a line is the one that a run writes into its log when it starts. -/
def isStartLine (line : String) : Bool :=
  line.startsWith "[benchrun] run " && occursIn " started for " line

/-- A log with the first line about the start of a run at its top: the run and the program it starts
write to one file at the same time. -/
def startLineFirst (text : String) : String :=
  let lines := text.splitOn "\n"
  match lines.findIdx? isStartLine with
  | none => text
  | some i => "\n".intercalate (lines.getD i "" :: (lines.take i ++ lines.drop (i + 1)))

/-- The texts of the files in a directory, by name. -/
def fileTexts (w : World) (directory : Machine.Path) : Members String :=
  let names := (w.files.list directory).mergeSort fun a b => a < b || a == b
  names.filterMap fun name =>
    match w.files.find? (directory ++ [name]) with
    | some (.file content _) => some (name, startLineFirst ((String.fromUTF8? content).getD ""))
    | _ => none

/-- The files in the directories below one, in the order in which these were made. -/
def runFiles (w : World) (root : Machine.Path) : List (Members String) :=
  (w.files.list root).map fun name => fileTexts w (root ++ [name])

/-- Whether a character is a hexadecimal digit in lower case. -/
def isLowerHex (c : Char) : Bool := c.isDigit || ('a' ≤ c && c ≤ 'f')

/-- Whether characters are an identity of version 7. -/
def isIdentity (chars : List Char) : Bool :=
  chars.length = 36 && chars.zipIdx.all fun (c, i) =>
    if i = 8 ∨ i = 13 ∨ i = 18 ∨ i = 23 then c = '-' else if i = 14 then c = '7' else isLowerHex c

/-- Writes a mark for every identity; `fuel` bounds the number of characters. -/
def maskChars : (fuel : Nat) → List Char → List Char
  | 0, text => text
  | _, [] => []
  | fuel + 1, c :: rest =>
    if isLowerHex c && isIdentity ((c :: rest).take 36) then
      "<ID>".toList ++ maskChars fuel (rest.drop 35)
    else c :: maskChars fuel rest

/-- A text with a mark for every identity. -/
def maskText (text : String) : String :=
  if text.length < 36 then text else String.ofList (maskChars text.length text.toList)

/-- A value with a mark for every identity in it. -/
def maskJson : Json → Json := Json.mapTexts maskText

end BenchQueue.Rehearsal
