import SourceUnit.Grammar.Conditional
import SourceUnit.Grammar.Target

/-! Statements that fit on a line. -/
namespace SourceUnit.Grammar

variable (r : Rules)

/-- Refuses an expression as a target, naming the part at fault. -/
def refuseTarget {α : Type} (role : Tree.TargetRole) (t : Tree) : P α :=
  match t.invalidTarget? role with
  | some bad =>
    raiseAt bad.place
      ((if role = .deleted then "cannot delete " else "cannot assign to ") ++ bad.noun)
  | none => P.reject

/-- The right side of an assignment. -/
def assignedValue : P Tree := group [yieldExpr r, starExpressions r]

def augmentedOperators : List (String × Kind) := [
  ("+=", .add), ("-=", .sub), ("*=", .mult), ("@=", .matMult), ("/=", .div), ("%=", .mod),
  ("&=", .bitAnd), ("|=", .bitOr), ("^=", .bitXor), ("<<=", .lShift), (">>=", .rShift),
  ("**=", .pow), ("//=", .floorDiv)]

def augmentedOperator : P Kind := rule fun _ => choice (augmentedOperators.map fun (text, k) => do
  let _ ← expect text
  if k = .matMult then since 5 "The '@' operator is" k else return k)

/-- A display in brackets, which cannot be annotated. -/
def invalidAnnTarget : P Tree := choice [
  listDisplay r,
  tupleDisplay r,
  (do
    let _ ← expect "("
    let a ← r.tree .invalidAnnTarget
    let _ ← expect ")"
    return a)]

/-- `targets =` before the last `=` of a wrong assignment. -/
def leadingTargets : P Unit := do
  let _ ← many (group [do
    let _ ← starTargets r
    expect "="])

def invalidAssignment {α : Type} : P α := rule fun _ => choice [
  (do
    let a ← r.tree .invalidAnnTarget
    let _ ← expect ":"
    let _ ← r.tree .expression
    raiseAt a.place s!"only single target (not {a.noun}) can be annotated"),
  (do
    let a ← starNamedExpression r
    let _ ← expect ","
    let _ ← many (starNamedExpressions r)
    let _ ← expect ":"
    let _ ← r.tree .expression
    raiseAt a.place "only single target (not tuple) can be annotated"),
  (do
    let a ← r.tree .expression
    let _ ← expect ":"
    let _ ← r.tree .expression
    raiseAt a.place "illegal target for annotation"),
  (do
    leadingTargets r
    let a ← starExpressions r
    let _ ← expect "="
    refuseTarget .assigned a),
  (do
    leadingTargets r
    let a ← yieldExpr r
    let _ ← expect "="
    raiseAt a.place "assignment to yield expression not possible"),
  (do
    let a ← starExpressions r
    let _ ← augmentedOperator
    let _ ← assignedValue r
    raiseAt a.place s!"'{a.noun}' is an illegal expression for augmented assignment")]

/-- `= value` after an annotation. -/
def annotatedValue : P (Option Tree) := optional (group [do
  let _ ← expect "="
  rule fun _ => choice [yieldExpr r, starExpressions r]])

def assignment : P Tree := rule fun _ => choice [
  spanning (do
    let a ← name
    let _ ← expect ":"
    let b ← r.tree .expression
    let c ← annotatedValue r
    return fun p => since 6 "Variable annotation syntax is"
      (.placed .annAssign p (a.withContext .store :: b :: c.toList))),
  spanning (do
    let a ← group [
      (do
        let _ ← expect "("
        let b ← r.tree .singleTarget
        let _ ← expect ")"
        return b),
      singleMemberTarget r]
    let _ ← expect ":"
    let b ← r.tree .expression
    let c ← annotatedValue r
    return fun p => since 6 "Variable annotations syntax is"
      (.placed .annAssign p (a :: b :: c.toList))),
  placed (do
    let a ← many1 (group [do
      let z ← starTargets r
      let _ ← expect "="
      return z])
    let b ← assignedValue r
    notAhead (expect "=")
    return fun p => .placed .assign p (a ++ [b])),
  placed (do
    let a ← r.tree .singleTarget
    let k ← augmentedOperator
    commit (do
      let b ← assignedValue r
      return fun p => .placed .augAssign p [a, .mark k, b])),
  explained (invalidAssignment r)]

def returnStmt : P Tree := rule fun _ => placed (do
  let _ ← expect "return"
  let a ← optional (starExpressions r)
  return fun p => .placed .returnStmt p a.toList)

def raiseStmt : P Tree := rule fun _ => choice [
  placed (do
    let _ ← expect "raise"
    let a ← r.tree .expression
    let b ← optional (group [do let _ ← expect "from"; r.tree .expression])
    return fun p => .placed .raiseStmt p (a :: b.toList)),
  placed (do
    let _ ← expect "raise"
    return fun p => .placed .raiseStmt p [])]

/-- `global` or `nonlocal` with its names. -/
def scopeStmt (word : String) (k : Kind) : P Tree := rule fun _ => placed (do
  let _ ← expect word
  let _ ← sepBy1 nameLexeme (expect ",")
  return fun p => .placed k p [])

def delStmt : P Tree := rule fun _ => choice [
  placed (do
    let _ ← expect "del"
    let a ← delTargets r
    ahead (group [expect ";", newline])
    return fun p => .placed .deleteStmt p a),
  explained (rule fun _ => do
    let _ ← expect "del"
    let a ← starExpressions r
    refuseTarget .deleted a)]

def yieldStmt : P Tree := rule fun _ => placed (do
  let a ← yieldExpr r
  return fun p => .placed .exprStmt p [a])

def assertStmt : P Tree := rule fun _ => placed (do
  let _ ← expect "assert"
  let a ← r.tree .expression
  let b ← optional (afterComma (r.tree .expression))
  return fun p => .placed .assertStmt p (a :: b.toList))

/-- Names joined by dots. -/
def dottedName : P Tree := choice [
  placed (do
    let a ← r.tree .dottedName
    let _ ← expect "."
    let b ← nameLexeme
    return fun p => .mk .name (a.label ++ "." ++ b.text) (some p) [.mark .load]),
  name]

/-- `as name`, of which only the presence matters. -/
def asName : P Unit := do
  let _ ← optional (group [do let _ ← expect "as"; nameLexeme])

def importName : P Tree := rule fun _ => placed (do
  let _ ← expect "import"
  let a ← rule fun _ => sepBy1 (rule fun _ => placed (do
    let a ← r.tree .dottedName
    asName
    return fun p => .mk .alias a.label (some p) [])) (expect ",")
  return fun p => .placed .importStmt p a)

def importFromAsNames : P (List Tree) := rule fun _ => sepBy1 (rule fun _ => placed (do
  let a ← nameLexeme
  asName
  return fun p => .mk .alias a.text (some p) [])) (expect ",")

def importFromTargets : P (List Tree) := rule fun _ => choice [
  (do
    let _ ← expect "("
    let a ← importFromAsNames
    let _ ← optional (expect ",")
    let _ ← expect ")"
    return a),
  (do
    let a ← importFromAsNames
    notAhead (expect ",")
    return a),
  placed (do
    let _ ← expect "*"
    return fun p => [.mk .alias "*" (some p) []]),
  explained (rule fun _ => do
    let _ ← importFromAsNames
    let _ ← expect ","
    let _ ← newline
    raiseHere "trailing comma not allowed without surrounding parentheses")]

def importFrom : P Tree := rule fun _ => choice [
  placed (do
    let _ ← expect "from"
    let _ ← many (group [expect ".", expect "..."])
    let _ ← r.tree .dottedName
    let _ ← expect "import"
    let a ← importFromTargets
    return fun p => .placed .importFrom p a),
  placed (do
    let _ ← expect "from"
    let _ ← many1 (group [expect ".", expect "..."])
    let _ ← expect "import"
    let a ← importFromTargets
    return fun p => .placed .importFrom p a)]

def importStmt : P Tree := rule fun _ => choice [importName r, importFrom r]

/-- A statement that is one word. -/
def wordStmt (word : String) (k : Kind) : P Tree := placed (do
  let _ ← expect word
  return fun p => .placed k p [])

/-- A statement tried only if its first word stands ahead. -/
def led (word : String) (p : P Tree) : P Tree := do
  ahead (expect word)
  p

def simpleStmt : P Tree := choice [
  assignment r,
  placed (do
    let a ← starExpressions r
    return fun p => .placed .exprStmt p [a]),
  led "return" (returnStmt r),
  (do
    ahead (group [expect "import", expect "from"])
    importStmt r),
  led "raise" (raiseStmt r),
  wordStmt "pass" .passStmt,
  led "del" (delStmt r),
  led "yield" (yieldStmt r),
  led "assert" (assertStmt r),
  wordStmt "break" .breakStmt,
  wordStmt "continue" .continueStmt,
  led "global" (scopeStmt "global" .globalStmt),
  led "nonlocal" (scopeStmt "nonlocal" .nonlocalStmt)]

/-- The statements of one line. -/
def simpleStmts : P (List Tree) := rule fun _ => choice [
  (do
    let a ← r.tree .simpleStmt
    notAhead (expect ";")
    let _ ← newline
    return [a]),
  (do
    let a ← sepBy1 (r.tree .simpleStmt) (expect ";")
    let _ ← optional (expect ";")
    let _ ← newline
    return a)]

end SourceUnit.Grammar
