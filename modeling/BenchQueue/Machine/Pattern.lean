/-!
# Patterns

A pattern describes texts: an asterisk stands for any text, a question mark for any character, and
brackets hold the characters that one character may be. What is quoted stands for itself.
-/

namespace BenchQueue.Machine

/-- A character of an expanded word; a quoted one stands for itself in a pattern. -/
structure Glyph where
  char : Char
  quoted : Bool
  deriving DecidableEq, Repr, Inhabited

/-- The glyphs of a text. -/
def glyphsOf (quoted : Bool) (text : String) : List Glyph :=
  text.toList.map fun c => ⟨c, quoted⟩

/-- The text of glyphs. -/
def textOfGlyphs (glyphs : List Glyph) : String := String.ofList (glyphs.map Glyph.char)

/-- A part of a pattern. A set holds ranges of characters, or all others if it is negated. -/
inductive PatternPart
  | char (c : Char)
  | anyChar
  | anyText
  | set (negated : Bool) (ranges : List (Char × Char))
  deriving DecidableEq, Repr

/-- A pattern. -/
abbrev Pattern := List PatternPart

namespace Pattern

/-- The ranges of the characters between brackets. -/
def rangesOf : List Char → List (Char × Char)
  | a :: '-' :: b :: rest => (a, b) :: rangesOf rest
  | a :: rest => (a, a) :: rangesOf rest
  | [] => []

/-- The set at the start of some characters behind the opening bracket, and how many of them it
takes. -/
def setOf? (inside : List Char) : Option (PatternPart × Nat) :=
  let negated := inside.head? = some '!' || inside.head? = some '^'
  let members := if negated then inside.drop 1 else inside
  let first := members.take 1
  let more := (members.drop 1).takeWhile (· != ']')
  if first.isEmpty || more.length + 1 = members.length then none
  else some (.set negated (rangesOf (first ++ more)), (if negated then 1 else 0) + more.length + 2)

/-- The pattern of glyphs; `taken` glyphs at the start belong to a part that was read. -/
def ofGlyphs (taken : Nat) : List Glyph → Pattern
  | [] => []
  | g :: rest =>
    match taken with
    | n + 1 => ofGlyphs n rest
    | 0 =>
      if g.quoted then .char g.char :: ofGlyphs 0 rest
      else if g.char = '*' then .anyText :: ofGlyphs 0 rest
      else if g.char = '?' then .anyChar :: ofGlyphs 0 rest
      else if g.char = '[' then
        match setOf? (rest.map Glyph.char) with
        | some (part, length) => part :: ofGlyphs length rest
        | none => .char '[' :: ofGlyphs 0 rest
      else .char g.char :: ofGlyphs 0 rest

/-- Whether a part that stands for one character stands for this one. -/
def describes : PatternPart → Char → Bool
  | .char d, c => c = d
  | .anyChar, _ => true
  | .anyText, _ => false
  | .set negated ranges, c => ranges.any (fun (a, b) => a ≤ c && c ≤ b) != negated

/-- Whether a pattern describes a whole text. -/
def accepts : Pattern → List Char → Bool
  | [], text => text.isEmpty
  | .anyText :: rest, text =>
    (List.range (text.length + 1)).any fun skipped => accepts rest (text.drop skipped)
  | part :: rest, c :: text => describes part c && accepts rest text
  | _ :: _, [] => false

/-- Whether a pattern describes more than one text. -/
def isOpen (p : Pattern) : Bool :=
  p.any fun
    | .char _ => false
    | _ => true

/-- The text without the start that a pattern describes, the shortest such start or the longest. -/
def cutStart (longest : Bool) (p : Pattern) (text : List Char) : List Char :=
  let lengths := List.range (text.length + 1)
  match (if longest then lengths.reverse else lengths).find? fun n => accepts p (text.take n) with
  | some n => text.drop n
  | none => text

/-- The text without the end that a pattern describes, the shortest such end or the longest. -/
def cutEnd (longest : Bool) (p : Pattern) (text : List Char) : List Char :=
  let lengths := List.range (text.length + 1)
  match (if longest then lengths else lengths.reverse).find? fun n => accepts p (text.drop n) with
  | some n => text.take n
  | none => text

end Pattern

end BenchQueue.Machine
