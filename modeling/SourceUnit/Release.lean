/-! Language releases, ordered by their numbers. -/
namespace SourceUnit

/-- A release of the language. -/
structure Release where
  major : Int
  minor : Int
deriving DecidableEq, Repr

namespace Release

/-- Strict numeric order: first the major number, then the minor one. -/
def before (a b : Release) : Bool :=
  a.major < b.major || (a.major == b.major && a.minor < b.minor)

/-- Numeric order. -/
def upTo (a b : Release) : Bool := !b.before a

def text (r : Release) : String := toString r.major ++ "." ++ toString r.minor

/-- The releases in increasing order. -/
def sort (rs : List Release) : List Release := rs.mergeSort upTo

end Release

end SourceUnit
