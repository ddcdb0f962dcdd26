/-! Sets of code points given as closed ranges in increasing order. -/
namespace SourceUnit.Text

/-- True when the number lies in one of the closed ranges. -/
def inRanges (ranges : List (Nat × Nat)) (n : Nat) : Bool :=
  ranges.any fun r => r.1 ≤ n && n ≤ r.2

end SourceUnit.Text
