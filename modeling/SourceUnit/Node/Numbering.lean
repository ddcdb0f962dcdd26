import SourceUnit.Grammar.Tree
import SourceUnit.Node

/-! Gives the nodes of a parsed tree their identities. Every node is one of its own, except that
contexts and operators, which hold nothing, are one node for each kind. -/
namespace SourceUnit.Node

open Grammar (Kind Place Tree)

/-- The kinds of which there is a single node. -/
def isSingle (k : Kind) : Bool :=
  match k with
  | .load | .store | .del | .and | .or | .add | .sub | .mult | .matMult | .div | .mod | .pow
  | .lShift | .rShift | .bitOr | .bitXor | .bitAnd | .floorDiv | .invert | .not | .uAdd | .uSub
  | .eq | .notEq | .lt | .ltE | .gt | .gtE | .is | .isNot | .isIn | .notIn => true
  | _ => false

/-- The first identity that is not taken by a single node. -/
def firstFree : Nat := 1000

def positionOf : Option Place → Position
  | some p => ⟨.value p.line, .value p.col, .value p.endLine, .value p.endCol⟩
  | none => {}

mutual

/-- Numbers a tree from the next free identity on. -/
def number (next : Nat) : Tree → Node × Nat
  | .mk k _ p cs =>
    if isSingle k then (.mk k.ctorIdx k.title (positionOf p) [], next)
    else
      let (children, after) := numberAll (next + 1) cs
      (.mk next k.title (positionOf p) children, after)

def numberAll (next : Nat) : List Tree → List Node × Nat
  | [] => ([], next)
  | t :: ts =>
    let (n, next) := number next t
    let (ns, next) := numberAll next ts
    (n :: ns, next)

end

def ofTree (t : Tree) : Node := (number firstFree t).1

end SourceUnit.Node
