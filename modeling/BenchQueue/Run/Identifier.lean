import BenchQueue.Json.Record
import BenchQueue.Text.Blank
/-!
# Run identifiers

An identifier names one benchmark to be run: who asked for it, on which commit, which benchmark,
with which query planner and for which pull request. Two requests with the same identifier ask for
the same work. The kind of a benchmark decides how its results are measured and whether the query
planner matters to it.
-/

namespace BenchQueue.Run

/-- The length of a shortened commit hash. -/
def shortRefLength : Nat := 7

/-- Whether a character is a hexadecimal digit of either case. -/
def isHexDigit (c : Char) : Bool :=
  c.isDigit || ('a' ≤ c && c ≤ 'f') || ('A' ≤ c && c ≤ 'F')

/-- A commit hash cut to seven digits; a tag, a branch or a short hash as it is. -/
def shortenRef (gitRef : String) : String :=
  let chars := gitRef.toList
  if shortRefLength < chars.length ∧ chars.all isHexDigit then
    String.ofList (chars.take shortRefLength)
  else gitRef

/-- The family of a benchmark: one that measures functions, or one that drives a whole cluster. -/
inductive Kind
  | micro
  | macroBench (benchmarkType : String)
  deriving DecidableEq, Repr

/-- The benchmark type that names the micro benchmarks. -/
def microType : String := "micro"

/-- The kind a benchmark type names, blanks around it and the case of ASCII letters aside. -/
def Kind.ofType (benchmarkType : String) : Kind :=
  let name := Text.asciiLower (Text.trim benchmarkType)
  if name = microType then .micro else .macroBench name

/-- The name of a kind. -/
def Kind.name : Kind → String
  | .micro => microType
  | .macroBench benchmarkType => benchmarkType

/-- Whether a kind is that of the micro benchmarks. -/
def Kind.isMicro : Kind → Bool
  | .micro => true
  | .macroBench _ => false

/-- What distinguishes one benchmark to be run from another. -/
structure Identifier where
  source : String
  gitRef : String
  benchmarkType : String
  plannerVersion : String := ""
  pullNumber : Int32 := 0
  deriving DecidableEq, Repr, Inhabited

namespace Identifier

/-- The kind of the benchmark. -/
def kind (i : Identifier) : Kind := Kind.ofType i.benchmarkType

/-- The shortened reference. -/
def shortRef (i : Identifier) : String := shortenRef i.gitRef

/-- The text that names an identifier in logs; a planner that is not given and a pull request
number that is not positive are left out. -/
def text (i : Identifier) : String :=
  i.source ++ "@" ++ i.shortRef ++ " (" ++ i.benchmarkType ++ ")" ++
    (if i.plannerVersion = "" then "" else " planner=" ++ i.plannerVersion) ++
    (if 0 < i.pullNumber then " pr=#" ++ toString i.pullNumber.toInt else "")

/-- The members of an encoded identifier. -/
def members (i : Identifier) : List (String × Json) :=
  [("source", .str i.source), ("git_ref", .str i.gitRef), ("benchmark_type", .str i.benchmarkType),
    ("planner_version", .str i.plannerVersion), ("pull_nb", .int i.pullNumber.toInt)]

/-- An identifier as an object. -/
def toJson (i : Identifier) : Json := .obj i.members

/-- Reads an identifier; the planner and the pull request may be left out. -/
def ofJson? (json : Json) : Option Identifier := do
  let r ← json.record? ["source", "git_ref", "benchmark_type", "planner_version", "pull_nb"]
  let source ← r.required "source" Json.str?
  let gitRef ← r.required "git_ref" Json.str?
  let benchmarkType ← r.required "benchmark_type" Json.str?
  let plannerVersion ← r.defaulted "planner_version" "" Json.str?
  let pullNumber ← r.defaulted "pull_nb" 0 Json.int32?
  pure { source, gitRef, benchmarkType, plannerVersion, pullNumber }

end Identifier

end BenchQueue.Run
