import ShapeMatch.Text.Property

/-!
# Assertions

Conditions on a position in a text.

An assertion looks at the characters before and after a position. At the ends
of the text one of them is missing. The start and the end of the text can be
told from that alone. Lines end at a line feed or, where a carriage return
counts too, at either of the two and never between them. Words consist of the
characters that the standard counts as parts of words, or of those of them that
belong to ASCII.

## Main definitions

* `Regex.WordEdge`: The conditions that concern words.
* `Regex.Assertion`: The conditions.
* `Regex.Assertion.holds`: Whether one holds between two characters.
-/

namespace ShapeMatch

namespace Regex

/-- A condition on whether the characters before and after a position belong to
    words. -/
inductive WordEdge where
  /-- A word starts or ends here. -/
  | boundary
  /-- No word starts or ends here. -/
  | noBoundary
  /-- A word starts here. -/
  | start
  /-- A word ends here. -/
  | stop
  /-- No word comes before. -/
  | noneBefore
  /-- No word comes after. -/
  | noneAfter
  deriving DecidableEq

/-- Whether the condition holds, from whether a word comes before and after. -/
def WordEdge.holds : WordEdge → Bool → Bool → Bool
  | boundary, before, after => before != after
  | noBoundary, before, after => before == after
  | start, before, after => !before && after
  | stop, before, after => before && !after
  | noneBefore, before, _ => !before
  | noneAfter, _, after => !after

/-- A condition on a position. -/
inductive Assertion where
  | textStart
  | textEnd
  /-- The start of a line. -/
  | lineStart (carriageReturn : Bool)
  /-- The end of a line. -/
  | lineEnd (carriageReturn : Bool)
  /-- A condition on words, of all scripts or of ASCII. -/
  | word (edge : WordEdge) (unicode : Bool)
  deriving DecidableEq

namespace Assertion

/-- Whether a character belongs to a word. -/
def inWord (unicode : Bool) (c : Char) : Bool :=
  if unicode then Property.isWordCharacter c else c.isAlphanum || c = '_'

/-- Whether the condition holds between the characters before and after. -/
def holds : Assertion → Option Char → Option Char → Bool
  | textStart, before, _ => before.isNone
  | textEnd, _, after => after.isNone
  | lineStart false, before, _ => before.isNone || before = some '\n'
  | lineStart true, before, after =>
    before.isNone || before = some '\n' || (before = some '\r' && after ≠ some '\n')
  | lineEnd false, _, after => after.isNone || after = some '\n'
  | lineEnd true, before, after =>
    after.isNone || after = some '\r' || (after = some '\n' && before ≠ some '\r')
  | word edge unicode, before, after =>
    edge.holds (before.any (inWord unicode)) (after.any (inWord unicode))

end Assertion

end Regex

end ShapeMatch
