import BenchQueue.Text.Blank
/-!
# Characters of words

The characters of which names are made: letters and digits. Of the characters beyond ASCII every one
that is not blank counts as a letter.
-/

namespace BenchQueue.Text

/-- Whether a character may stand in a word. -/
def isWordCharacter (c : Char) : Bool :=
  c.isAlphanum || (0x80 ≤ c.toNat && !isBlank c)

end BenchQueue.Text
