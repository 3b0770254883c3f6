import BenchQueue.Number.Reader
import BenchQueue.Text.Word
/-!
# Filters of log events

A filter is a list of directives. A directive gives the events of the targets that start with a text
a level; of the directives for a target the one with the longest text decides, and of two with the
same text the later one. Events of a target without a directive are not shown. A directive on spans
says nothing about events outside of them.
-/

namespace BenchQueue.Worker

/-- How important an event is. -/
inductive Level
  | error
  | warn
  | info
  | debug
  | trace
  deriving DecidableEq, Repr

namespace Level

/-- The number of a level; greater ones are less important. -/
def rank : Level → Nat
  | .error => 1
  | .warn => 2
  | .info => 3
  | .debug => 4
  | .trace => 5

/-- The name of a level. -/
def name : Level → String
  | .error => "ERROR"
  | .warn => "WARN"
  | .info => "INFO"
  | .debug => "DEBUG"
  | .trace => "TRACE"

end Level

/-- The event of a log: how important it is, which part of the worker it comes from, and what it
says. -/
structure LogEvent where
  level : Level
  target : String
  text : String
  deriving DecidableEq, Repr

/-- The least important level that is shown; none shows nothing. -/
abbrev Threshold := Option Level

/-- Whether events of a level are shown. -/
def Threshold.shows (t : Threshold) (level : Level) : Bool :=
  t.any fun l => level.rank ≤ l.rank

/-- The threshold that a number stands for. -/
def Threshold.ofNumber? : Nat → Option Threshold
  | 0 => some none
  | 1 => some (some .error)
  | 2 => some (some .warn)
  | 3 => some (some .info)
  | 4 => some (some .debug)
  | 5 => some (some .trace)
  | _ => none

/-- The threshold that a name in any case stands for. -/
def Threshold.ofName? (name : String) : Option Threshold :=
  match Text.asciiLower name with
  | "off" => some none
  | "error" => some (some .error)
  | "warn" => some (some .warn)
  | "info" => some (some .info)
  | "debug" => some (some .debug)
  | "trace" => some (some .trace)
  | _ => none

/-- Reads a threshold, a number or a name. -/
def Threshold.parse? (text : String) : Option Threshold :=
  match (parseWord? text).bind fun n => ofNumber? n.toNat with
  | some t => some t
  | none => ofName? text

/-- What a directive is about: the targets that start with a text, all targets, or spans. -/
inductive Scope
  | targets (start : String)
  | everything
  | spans
  deriving DecidableEq, Repr

/-- A directive of a filter. -/
structure Directive where
  scope : Scope
  threshold : Threshold
  deriving DecidableEq, Repr

namespace Directive

/-- Whether a character may start a directive on targets. -/
def mayStart (c : Char) : Bool :=
  c == '-' || c == ':' || c == '_' || Text.isWordCharacter c

/-- The threshold behind an equals sign; nothing there shows everything. Where blanks stand in front
of the directive there is none. -/
def thresholdBehind? (blanks : Bool) (text : List Char) : Option Threshold :=
  if blanks then none
  else if text.isEmpty then some (some .trace)
  else Threshold.parse? (String.ofList text)

/-- Reads what stands behind the bracket that opens a span. -/
def parseSpan? (blanks : Bool) (text : List Char) : Option Directive := do
  match text.dropWhile (· != ']') with
  | [] => none
  | _ :: '=' :: level => pure ⟨.spans, ← thresholdBehind? blanks level⟩
  | _ :: rest => if rest.all Text.isBlank then pure ⟨.spans, some .trace⟩ else none

/-- Reads a directive: a threshold for everything, a target, or one of the two with an equals sign
and a threshold. A target without a threshold shows everything. -/
def parse? (text : String) : Option Directive := do
  let chars := text.toList
  let body := chars.dropWhile Text.isBlank
  let blanks := body.length < chars.length
  match body with
  | [] => none
  | '[' :: span => parseSpan? blanks span
  | first :: _ =>
    if !mayStart first then none
    else
      let name := chars.takeWhile fun c => c != '=' && c != '['
      match chars.drop name.length with
      | '=' :: level => pure ⟨.targets (String.ofList name), ← thresholdBehind? blanks level⟩
      | '[' :: span => parseSpan? blanks span
      | _ =>
        match Threshold.parse? text with
        | some threshold => pure ⟨.everything, threshold⟩
        | none => pure ⟨.targets text, some .trace⟩

/-- How specific a directive is for a target: one more than the length of its text, one if it is
about everything, and nothing if it says nothing about the target. -/
def specificity? (d : Directive) (target : String) : Option Nat :=
  match d.scope with
  | .targets start => if target.startsWith start then some (start.utf8ByteSize + 1) else none
  | .everything => some 0
  | .spans => none

end Directive

/-- The directives of a filter. -/
abbrev LogFilter := List Directive

namespace LogFilter

/-- The filter without directives shows errors. -/
def errorsOnly : LogFilter := [⟨.everything, some .error⟩]

/-- Reads a filter, whose directives have commas between them; an unreadable directive makes the
whole filter unreadable. -/
def parse? (text : String) : Option LogFilter :=
  match (text.splitOn ",").filter (· ≠ "") with
  | [] => some errorsOnly
  | directives => directives.mapM Directive.parse?

/-- The more specific of two directives with their specificities; the second one if they are the
same. -/
def moreSpecific (a b : Nat × Directive) : Nat × Directive := if b.1 < a.1 then a else b

/-- The directive that decides about a target. -/
def deciding? (f : LogFilter) (target : String) : Option Directive :=
  match f.filterMap fun d => (d.specificity? target).map fun n => (n, d) with
  | [] => none
  | first :: rest => some (rest.foldl moreSpecific first).2

/-- Whether an event is shown. -/
def shows (f : LogFilter) (event : LogEvent) : Bool :=
  (f.deciding? event.target).any fun d => d.threshold.shows event.level

end LogFilter

end BenchQueue.Worker
