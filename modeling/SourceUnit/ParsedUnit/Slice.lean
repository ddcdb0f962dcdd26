import SourceUnit.ParsedUnit

/-! Slices of the lines of a unit, with a step. Bounds below zero count from the end, and bounds
outside the list stop at its ends. -/
namespace SourceUnit.Slice

/-- A bound moved into the range that a step in its direction can reach. -/
def clamp (size : Nat) (backward : Bool) (i : Int) : Int :=
  let low : Int := if backward then -1 else 0
  let high : Int := if backward then (size : Int) - 1 else size
  let i := if i < 0 then i + size else i
  max low (min i high)

/-- The elements at every `step`-th index from `i` on, before `stop` is reached. -/
def collect {α : Type} (xs : Array α) (step stop : Int) : (fuel : Nat) → (i : Int) → List α
  | 0, _ => []
  | fuel + 1, i =>
    if (0 < step ∧ i < stop) ∨ (step < 0 ∧ stop < i) then
      (xs[i.toNat]?).toList ++ collect xs step stop fuel (i + step)
    else []

/-- A slice; a step of zero is refused. -/
def slice {α : Type} (xs : List α) (start stop step : Option Int) : Except Error (List α) :=
  let step := step.getD 1
  if step = 0 then .error .zeroStep
  else
    let n := xs.length
    let backward := decide (step < 0)
    let first := match start with
      | some i => clamp n backward i
      | none => if backward then (n : Int) - 1 else 0
    let last := match stop with
      | some i => clamp n backward i
      | none => if backward then -1 else n
    -- no index comes twice, so there are at most as many as the list is long
    .ok (collect xs.toArray step last n first)

end SourceUnit.Slice

namespace SourceUnit

/-- Some of the lines of a unit. -/
def ParsedUnit.slice (u : ParsedUnit) (start stop step : Option Int) :
    Except Error (List (List Char)) :=
  Slice.slice u.lines start stop step

end SourceUnit
