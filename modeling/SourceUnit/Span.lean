/-! Stretches of source text, in lines counted from one and columns counted in characters. -/
namespace SourceUnit

structure Span where
  startLine : Int
  startCol : Int
  endLine : Int
  /-- The first column after the stretch. -/
  endCol : Int
deriving DecidableEq, Repr

/-- Lexicographic order of positions. -/
def posLt (l c l' c' : Int) : Bool := l < l' || (l == l' && c < c')

namespace Span

/-- Whether two spans share a line. -/
def overlaps (a b : Span) : Bool := !(a.endLine < b.startLine || b.endLine < a.startLine)

def containsLine (s : Span) (line : Int) : Bool := s.startLine ≤ line && line ≤ s.endLine

/-- Whether a position lies inside; the end does not. -/
def contains (s : Span) (line col : Int) : Bool :=
  !posLt line col s.startLine s.startCol && posLt line col s.endLine s.endCol

/-- The empty span at a position. -/
def point (line col : Int) : Span := ⟨line, col, line, col⟩

end Span

end SourceUnit
