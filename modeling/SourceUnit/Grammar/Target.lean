import SourceUnit.Grammar.Call

/-! What can be assigned to, looped over or deleted. -/
namespace SourceUnit.Grammar

variable (r : Rules)

/-- What would make a target go on. -/
def targetGoesOn : P Unit := rule fun _ => do
  let _ ← choice [expect "(", expect "[", expect "."]

/-- An attribute or subscript of a primary, in a context. -/
def memberTarget (ctx : Kind) : List (P Tree) := [
  placed (do
    let a ← r.tree .tPrimary
    let _ ← expect "."
    let b ← nameLexeme
    notAhead targetGoesOn
    return fun p => .mk .attribute b.text (some p) [a, .mark ctx]),
  placed (do
    let a ← r.tree .tPrimary
    let _ ← expect "["
    let b ← slices r
    let _ ← expect "]"
    notAhead targetGoesOn
    return fun p => .placed .subscript p [a, b, .mark ctx])]

/-- The part of a target before its last attribute or subscript. -/
def targetPrimary : P Tree := choice [
  placed (do
    let a ← r.tree .tPrimary
    let _ ← expect "."
    let b ← nameLexeme
    ahead targetGoesOn
    return fun p => .mk .attribute b.text (some p) [a, .mark .load]),
  placed (do
    let a ← r.tree .tPrimary
    let _ ← expect "["
    let b ← slices r
    let _ ← expect "]"
    ahead targetGoesOn
    return fun p => .placed .subscript p [a, b, .mark .load]),
  placed (do
    let a ← r.tree .tPrimary
    let b ← genexp r
    ahead targetGoesOn
    return fun p => .placed .call p [a, b]),
  placed (do
    let a ← r.tree .tPrimary
    let b ← callPart r
    ahead targetGoesOn
    return fun p => .placed .call p (a :: b.args ++ b.keywords)),
  (do
    let a ← atom r
    ahead targetGoesOn
    return a)]

def starTarget : P Tree := choice [
  placed (do
    let _ ← expect "*"
    let a ← group [do notAhead (expect "*"); r.tree .starTarget]
    return fun p => .placed .starred p [a.withContext .store, .mark .store]),
  r.tree .targetWithStarAtom]

/-- Targets between round brackets: a comma makes them a tuple. -/
def tupleTargets : P (List Tree) := rule fun _ => choice [
  (do
    let a ← r.tree .starTarget
    let b ← many1 (afterComma (r.tree .starTarget))
    let _ ← optional (expect ",")
    return a :: b),
  (do
    let a ← r.tree .starTarget
    let _ ← expect ","
    return [a])]

/-- Targets between square brackets. -/
def listTargets : P (List Tree) := rule fun _ => do
  let a ← sepBy1 (r.tree .starTarget) (expect ",")
  let _ ← optional (expect ",")
  return a

def starAtom : P Tree := rule fun _ => choice [
  (do
    let a ← name
    return a.withContext .store),
  (do
    let _ ← expect "("
    let a ← r.tree .targetWithStarAtom
    let _ ← expect ")"
    return a.withContext .store),
  placed (do
    let _ ← expect "("
    let a ← optional (tupleTargets r)
    let _ ← expect ")"
    return fun p => .placed .tuple p (withMark (a.getD []) .store)),
  placed (do
    let _ ← expect "["
    let a ← optional (listTargets r)
    let _ ← expect "]"
    return fun p => .placed .list p (withMark (a.getD []) .store))]

def targetWithStarAtom : P Tree := choice (memberTarget r .store ++ [starAtom r])

/-- A target that is an attribute or a subscript. -/
def singleMemberTarget : P Tree := rule fun _ => choice (memberTarget r .store)

/-- A target of an annotation or an augmented assignment. -/
def singleTarget : P Tree := choice [
  singleMemberTarget r,
  (do
    let a ← name
    return a.withContext .store),
  (do
    let _ ← expect "("
    let a ← r.tree .singleTarget
    let _ ← expect ")"
    return a)]

def delTargets : P (List Tree) := rule fun _ => do
  let a ← sepBy1 (r.tree .delTarget) (expect ",")
  let _ ← optional (expect ",")
  return a

def delTarget : P Tree := choice (memberTarget r .del ++ [
  rule fun _ => choice [
    (do
      let a ← name
      return a.withContext .del),
    (do
      let _ ← expect "("
      let a ← r.tree .delTarget
      let _ ← expect ")"
      return a.withContext .del),
    placed (do
      let _ ← expect "("
      let a ← optional (delTargets r)
      let _ ← expect ")"
      return fun p => .placed .tuple p (withMark (a.getD []) .del)),
    placed (do
      let _ ← expect "["
      let a ← optional (delTargets r)
      let _ ← expect "]"
      return fun p => .placed .list p (withMark (a.getD []) .del))]])

end SourceUnit.Grammar
