import SourceUnit.Text.Class.Ranges

/-! White space: what may surround a release name, and what is trimmed from a line. -/
namespace SourceUnit.Text

/-- White space of every kind, line breaks and separators included. -/
def blankRanges : List (Nat × Nat) := [
  (9, 13), (28, 32), (133, 133), (160, 160), (5760, 5760), (8192, 8202), (8232, 8233),
  (8239, 8239), (8287, 8287), (12288, 12288)]

/-- True of a white space code point. -/
def isBlank (n : Nat) : Bool := inRanges blankRanges n

/-- True of a white space character of the ASCII range: the ones that count as indentation. -/
def isAsciiBlank (c : Char) : Bool := c == ' ' || ('\t' ≤ c && c ≤ '\r')

end SourceUnit.Text
