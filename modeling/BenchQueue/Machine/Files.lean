/-!
# Files of a machine

A tree of directories and files, kept as a list of paths with what lies there. A name is looked up
from the root or from a working directory, one part after the other; every part but the last must
be a directory. A request that fails changes nothing.
-/

namespace BenchQueue.Machine

/-- Why a request about a file failed. -/
inductive Fault
  | permissionDenied
  | badFormat
  | notFound
  | alreadyExists
  | notDirectory
  | isDirectory
  | notEmpty
  | invalidText
  deriving DecidableEq, Repr

/-- The text of a failure as the system states it. -/
def Fault.text : Fault → String
  | .permissionDenied => "Permission denied (os error 13)"
  | .badFormat => "Exec format error (os error 8)"
  | .notFound => "No such file or directory (os error 2)"
  | .alreadyExists => "File exists (os error 17)"
  | .notDirectory => "Not a directory (os error 20)"
  | .isDirectory => "Is a directory (os error 21)"
  | .notEmpty => "Directory not empty (os error 39)"
  | .invalidText => "stream did not contain valid UTF-8"

/-- The parts of a path from the root. -/
abbrev Path := List String

/-- What lies at a path. -/
inductive Entry
  | directory
  | file (content : ByteArray) (executable : Bool)
  deriving Inhabited

/-- The entries below the root, which is a directory that is always there. -/
structure Files where
  entries : List (Path × Entry) := []
  deriving Inhabited

/-- The name of a path. -/
def Path.text (path : Path) : String :=
  "/" ++ "/".intercalate path

/-- A name put behind that of a directory; a name from the root stands for itself. -/
def joinNames (directory name : String) : String :=
  if name.startsWith "/" then name
  else if directory = "" then name
  else if directory.endsWith "/" then directory ++ name
  else directory ++ "/" ++ name

namespace Files

/-- What lies at a path, if anything does. -/
def find? (fs : Files) (path : Path) : Option Entry :=
  if path.isEmpty then some .directory
  else (fs.entries.find? (·.1 == path)).map (·.2)

/-- Puts an entry at a path, in place of what lay there. -/
def set (fs : Files) (path : Path) (entry : Entry) : Files :=
  if (fs.entries.any (·.1 == path)) then
    { entries := fs.entries.map fun (p, e) => if p == path then (p, entry) else (p, e) }
  else { entries := fs.entries ++ [(path, entry)] }

/-- Removes a path and all that lies below it. -/
def removeTree (fs : Files) (path : Path) : Files :=
  { entries := fs.entries.filter fun (p, _) => !path.isPrefixOf p }

/-- The names in a directory, in the order in which they were made. -/
def list (fs : Files) (path : Path) : List String :=
  fs.entries.filterMap fun (p, _) =>
    if p.length = path.length + 1 ∧ path.isPrefixOf p then p.getLast? else none

/-- Follows the parts of a name from a directory. Every part is looked up in a directory that must
exist; what the last part names need not. -/
def walk (fs : Files) (start : Path) : List String → Except Fault Path
  | [] => .ok start
  | part :: rest =>
    match fs.find? start with
    | none => .error .notFound
    | some (.file _ _) => .error .notDirectory
    | some .directory =>
      if part = "" ∨ part = "." then walk fs start rest
      else if part = ".." then walk fs start.dropLast rest
      else walk fs (start ++ [part]) rest

/-- The path of a name in a working directory. -/
def resolve (fs : Files) (cwd : Path) (name : String) : Except Fault Path :=
  if name = "" then .error .notFound
  else fs.walk (if name.startsWith "/" then [] else cwd) (name.splitOn "/")

/-- What a name stands for. -/
def lookup (fs : Files) (cwd : Path) (name : String) : Except Fault Entry := do
  let path ← fs.resolve cwd name
  match fs.find? path with
  | some entry => pure entry
  | none => throw .notFound

/-- Whether a name stands for a directory. -/
def isDirectory (fs : Files) (cwd : Path) (name : String) : Bool :=
  match fs.lookup cwd name with
  | .ok .directory => true
  | _ => false

/-- The bytes of a file. -/
def read (fs : Files) (cwd : Path) (name : String) : Except Fault ByteArray := do
  match ← fs.lookup cwd name with
  | .directory => throw .isDirectory
  | .file content _ => pure content

/-- The text of a file. -/
def readText (fs : Files) (cwd : Path) (name : String) : Except Fault String := do
  match String.fromUTF8? (← fs.read cwd name) with
  | some text => pure text
  | none => throw .invalidText

/-- The path and content of a file that is opened for writing; a file that is not there starts
empty. -/
def openForWriting (fs : Files) (cwd : Path) (name : String) :
    Except Fault (Path × ByteArray × Bool) := do
  let path ← fs.resolve cwd name
  match fs.find? path with
  | some .directory => throw .isDirectory
  | some (.file content executable) => pure (path, content, executable)
  | none =>
    if name.endsWith "/" then throw .isDirectory
    match fs.find? path.dropLast with
    | some .directory => pure (path, ByteArray.empty, false)
    | some (.file _ _) => throw .notDirectory
    | none => throw .notFound

/-- Replaces the content of a file. -/
def write (fs : Files) (cwd : Path) (name : String) (content : ByteArray) : Except Fault Files := do
  let (path, _, executable) ← fs.openForWriting cwd name
  pure (fs.set path (.file content executable))

/-- Puts bytes behind the content of a file. -/
def append (fs : Files) (cwd : Path) (name : String) (more : ByteArray) : Except Fault Files := do
  let (path, content, executable) ← fs.openForWriting cwd name
  pure (fs.set path (.file (content ++ more) executable))

/-- Makes a directory in one that exists. -/
def makeDir (fs : Files) (cwd : Path) (name : String) : Except Fault Files := do
  let path ← fs.resolve cwd name
  match fs.find? path with
  | some _ => throw .alreadyExists
  | none =>
    match fs.find? path.dropLast with
    | some .directory => pure (fs.set path .directory)
    | some (.file _ _) => throw .notDirectory
    | none => throw .notFound

/-- Makes the directories of a path that are missing, from the outermost one. -/
def makeDirsAt (fs : Files) (start : Path) : List String → Except Fault Files
  | [] => .ok fs
  | part :: rest =>
    let path := start ++ [part]
    match fs.find? path with
    | some .directory => makeDirsAt fs path rest
    | some (.file _ _) => .error (if rest.isEmpty then .alreadyExists else .notDirectory)
    | none => makeDirsAt (fs.set path .directory) path rest

/-- The parts of a name without those that stay in a directory, steps back being resolved. -/
def plainParts (name : String) : List String :=
  (name.splitOn "/").foldl (fun parts part =>
    if part = "" ∨ part = "." then parts
    else if part = ".." then parts.dropLast
    else parts ++ [part]) []

/-- Makes a directory with all directories around it that are missing. -/
def makeDirs (fs : Files) (cwd : Path) (name : String) : Except Fault Files :=
  fs.makeDirsAt (if name.startsWith "/" then [] else cwd) (plainParts name)

end Files

end BenchQueue.Machine
